import KitConsole.Proofs.Reports
import KitConsole.Scripted

/-!
# A rejected credential ends a session

* `Event.Rejects` — a call that is answered with a rejection; `Accepted`, `RejectedLast` — events without one, and events
  that end with the only one.
* `Closes es x` — the events end with a rejection if `x` is one, and hold none otherwise; `Leads s t x` — the events from
  one session to another do so, from single operations over stretches to whole runs.
* `Unsaid`, `Greeted`, `History.parted` — the notices around the operations: the welcome stands between the authentications
  at the front of the plan and all other operations, the farewell at the end.
* `conduct_rejection` — the exit status is one exactly if a call was rejected; nothing follows but the report.
-/

namespace KitConsole

/-- A call that is answered with a rejection. -/
def Event.Rejects (e : Event) : Prop := ∃ reply, e.reply? = some reply ∧ reply.kind = .unauthorized

theorem Event.not_rejects_of_none {e : Event} (h : e.reply? = none) : ¬ e.Rejects := by
  rintro ⟨reply, hreply, -⟩
  rw [h] at hreply
  simp at hreply

/-- The notices that stand around the operations of a session. -/
def Notice.isFrame : Notice → Bool
  | .welcome | .goodbye | .authFailed => true
  | _ => false

/-- Whenever the user is told `n`, it is heard. -/
def Counterpart.Hears {ω : Type} (c : Counterpart ω) (n : Notice) : Prop := ∀ w, (c (.notify n) w).result = .ok ()

namespace Flow

variable {A : Answers} {op : Operation} {es es' : List Event}

/-- No call is rejected. -/
def Accepted (es : List Event) : Prop := ∀ e ∈ es, ¬ e.Rejects

/-- The last event is a rejected call, and no other call is rejected. -/
def RejectedLast (es : List Event) : Prop := ∃ before e, es = before ++ [e] ∧ e.Rejects ∧ Accepted before

/-- Events that lead to the stop `x`, if there is one. -/
def Closes (es : List Event) : Option Stop → Prop
  | some (.rejected _) => RejectedLast es
  | _ => Accepted es

/-- What a result was stopped by. -/
def stopOf {α : Type} : Except Stop α → Option Stop
  | .error x => some x
  | .ok _ => none

theorem Accepted.append (h : Accepted es) (h' : Accepted es') : Accepted (es ++ es') :=
  List.forall_mem_append.2 ⟨h, h'⟩

theorem Accepted.closes {x : Option Stop} (h : Accepted es) (h' : Closes es' x) : Closes (es ++ es') x := by
  rcases x with _ | message | f
  · exact h.append h'
  · obtain ⟨before, e, rfl, he, hbefore⟩ := h'
    exact ⟨es ++ before, e, (List.append_assoc _ _ _).symm, he, h.append hbefore⟩
  · exact h.append h'

/-! ## one operation -/

theorem told_accepted {n : Option Notice} {f : Option Fault} (h : Told A n es f) : Accepted es := by
  intro e he
  have hreplies : replies es = [] := (told_failures h).1
  exact Event.not_rejects_of_none (List.filterMap_eq_nil_iff.1 hreplies e he)

theorem closes_of_exchange {call : Call} {shown : Reply → Option Notice} {x : Except Stop Reply}
    (h : Exchange A call shown es x) : Closes es (stopOf x) := by
  cases h with
  | fault _ => exact List.forall_mem_singleton.2 (Event.not_rejects_of_none rfl)
  | @answered reply es x _ hr =>
    cases hr with
    | rejected hk => exact ⟨[], _, rfl, ⟨reply, rfl, hk⟩, by simp [Accepted]⟩
    | @told _ f hk ht =>
      have hcall : ¬ Event.Rejects ⟨.call call, some reply⟩ := by
        rintro ⟨reply', hreply', hk'⟩
        obtain rfl : reply = reply' := Option.some.inj hreply'
        exact hk hk'
      have hes : Accepted (⟨.call call, some reply⟩ :: es) := List.forall_mem_cons.2 ⟨hcall, told_accepted ht⟩
      cases f <;> exact hes

theorem Does.closes {r : Except Stop Unit} (h : Does A op es r) : Closes es (stopOf r) := by
  induction h with
  | done => simp [stopOf, Closes, Accepted]
  | fault => simp [stopOf, Closes, Accepted]
  | @aside e a es r he _ ih =>
    have hreply : Event.reply? ⟨e, a⟩ = none := by
      cases e with
      | call _ => exact absurd he id
      | _ => rfl
    have haside : Accepted [⟨e, a⟩] := List.forall_mem_singleton.2 (Event.not_rejects_of_none hreply)
    exact haside.closes ih
  | stopped _ h => exact closes_of_exchange h
  | replied _ h _ ih =>
    -- an operation only goes on after an exchange that was not rejected
    have haccepted := closes_of_exchange h
    exact Accepted.closes haccepted ih

theorem isFrame_of_failureNotice {reply : Reply} {n : Notice} (h : failureNotice reply = some n) :
    n.isFrame = false := by
  unfold failureNotice at h
  split at h
  · simp at h
  · obtain rfl := Option.some.inj h
    rfl

theorem isFrame_of_shownBy {reply : Reply} {n : Notice} (h : shownBy op reply = some n) : n.isFrame = false := by
  cases op with
  | view | save | delete =>
    obtain rfl := Option.some.inj h
    rfl
  | _ => exact isFrame_of_failureNotice h

/-- An operation says nothing that stands around the operations. -/
theorem Within.isFrame {n : Notice} (h : Within op (.notify n)) : n.isFrame = false := by
  rcases h with rfl | ⟨reply, hn⟩
  · rfl
  · unfold reaction at hn
    split at hn
    · obtain rfl := Option.some.inj hn
      rfl
    · exact isFrame_of_shownBy hn

end Flow

namespace Session

open KitConsole.Flow

variable {ω : Type} {c : Counterpart ω} {s t : Session ω} {early late : List (Deed ω)} {e : Ending}

/-! ## whole runs -/

def Ending.stop? : Ending → Option Stop
  | .stopped x => some x
  | _ => none

/-- What happened from `s` to `t` leads to the stop `x`, if there is one. -/
def Leads (s t : Session ω) (x : Option Stop) : Prop := ∃ es, t.events = s.events ++ es ∧ Closes es x

section Leads

variable {s t u : Session ω} {ds : List (Deed ω)}

theorem Leads.refl (s : Session ω) : Leads s s none := ⟨[], by simp, by simp [Closes, Accepted]⟩

theorem Leads.trans {x : Option Stop} (h : Leads s t none) (h' : Leads t u x) : Leads s u x := by
  obtain ⟨es, hes, haccepted⟩ := h
  obtain ⟨es', hes', hcloses⟩ := h'
  refine ⟨es ++ es', ?_, Accepted.closes haccepted hcloses⟩
  rw [hes', hes, List.append_assoc]

theorem Notified.leads {n : Notice} {a : Option Unit} (h : Notified n s a t) : Leads s t none :=
  ⟨_, h.events, List.forall_mem_singleton.2 (Event.not_rejects_of_none rfl)⟩

/-- Nothing but a rejection asks for more than that no call was rejected. -/
theorem Leads.fault (h : Leads s t none) (f : Fault) : Leads s t (some (.fault f)) := h

theorem Deed.By.leads {d : Deed ω} (h : d.By c) : Leads d.before d.after (stopOf d.result) :=
  ⟨d.events, h.events_eq, (h.does c.keeps_any trivial).closes⟩

/-- Only the last operation of a stretch can have been stopped, and so only there a call can have been rejected. -/
theorem Stretch.leads {r : Except Stop Unit} (h : Stretch c s ds r t) : Leads s t (stopOf r) := by
  induction h with
  | nil => exact .refl _
  | stopped hd hx =>
    have hleads := hd.leads
    rw [hx] at hleads
    exact hleads
  | cons hd hok _ ih =>
    have hleads := hd.leads
    rw [hok] at hleads
    exact Leads.trans hleads ih

theorem Operated.leads {e : Ending} (h : Operated c s ds e t) : Leads s t e.stop? := by
  cases h with
  | stopped h => exact h.leads
  | unfinished h => exact h.leads
  | finished h _ => exact h.leads

end Leads

variable {s t : Session ω} {early late : List (Deed ω)} {e : Ending}

/-- A run is stopped by a rejection exactly if its last event is one; no other call is rejected. -/
theorem History.leads (h : History c s early late e t) : Leads s t e.stop? := by
  cases h with
  | refused hopening => exact hopening.stretch.leads
  | unwelcomed hopening hn =>
    have hopened : Leads s _ none := hopening.stretch.leads
    obtain ⟨f, hx, hnotified⟩ | ⟨hx, -⟩ := notified_of_notify hn
    · obtain rfl := Except.error.inj hx
      exact (hopened.trans hnotified.leads).fault f
    · simp at hx
  | worked hopening hn _ hlate _ =>
    have hopened : Leads s _ none := hopening.stretch.leads
    exact (hopened.trans (notified_of_ok hn).leads).trans hlate.leads
  | ended hopening hn _ hlate hfarewell =>
    have hopened : Leads s _ none := hopening.stretch.leads
    have hworked : Leads _ _ none := hlate.leads
    have hall := (hopened.trans (notified_of_ok hn).leads).trans hworked
    obtain ⟨f, rfl, hparted⟩ | ⟨rfl, hparted⟩ := notified_of_farewell hfarewell
    · exact (hall.trans hparted.leads).fault f
    · exact hall.trans hparted.leads

/-! ## the notices around the operations -/

/-- Nobody is told `n`. -/
def Unsaid (n : Notice) (es : List Event) : Prop := ∀ e ∈ es, e.effect ≠ .notify n

theorem Unsaid.append {n : Notice} {es es' : List Event} (h : Unsaid n es) (h' : Unsaid n es') :
    Unsaid n (es ++ es') := List.forall_mem_append.2 ⟨h, h'⟩

theorem unsaid_deeds {ds : List (Deed ω)} (h : ∀ d ∈ ds, d.By c) {n : Notice} (hn : n.isFrame = true) :
    Unsaid n (ds.flatMap Deed.events) := by
  intro e he heq
  obtain ⟨d, hd, hed⟩ := List.mem_flatMap.1 he
  have hwithin := ((h d hd).does c.keeps_any trivial).within e hed
  rw [heq] at hwithin
  rw [hwithin.isFrame] at hn
  simp at hn

/-- The welcome stands once, between the authentications at the front of the plan and all other operations; there is
neither if one of them is stopped. -/
inductive Greeted (plan : Plan) (early late : List (Deed ω)) (es : List Event) : Prop
  | refused {d : Deed ω} {x : Stop} : early.map Deed.op <+: plan.takeWhile (· = .authenticate) → d ∈ early →
      d.result = .error x → late = [] → Unsaid .welcome es → Greeted plan early late es
  | welcomed (a : Option Unit) (rest : List Event) : early.map Deed.op = plan.takeWhile (· = .authenticate) →
      Accepted (early.flatMap Deed.events) → Unsaid .welcome (early.flatMap Deed.events) →
      es = early.flatMap Deed.events ++ ⟨.notify .welcome, a⟩ :: (late.flatMap Deed.events ++ rest) →
      Unsaid .welcome (late.flatMap Deed.events ++ rest) → Greeted plan early late es

/-- The operations of the opening are the authentications at the front of the plan, or the first ones of them. -/
theorem Opening.takeWhile {r : Except Stop Unit} (h : Opening c s early r t) :
    early.map Deed.op <+: s.plan.takeWhile (· = .authenticate) ∧
      (r = .ok () → early.map Deed.op = s.plan.takeWhile (· = .authenticate)) := by
  have hops : ∀ op ∈ early.map Deed.op, decide (op = .authenticate) = true := by
    simpa using h.authenticate
  rw [h.stretch.plan_eq h.authenticate, List.takeWhile_append_of_pos hops]
  refine ⟨List.prefix_append _ _, fun hr => ?_⟩
  have hrest : t.plan.takeWhile (· = .authenticate) = [] := by
    rcases hp : t.plan with _ | ⟨op, rest⟩
    · rfl
    · have hop := h.done hr
      rw [hp, List.head?_cons] at hop
      exact List.takeWhile_cons_of_neg (by simpa using hop)
  rw [hrest, List.append_nil]

/-- A run greets, whatever is said after it. -/
theorem History.greeted (h : History c s early late e t) (hs : s.events = []) (tail : List Event)
    (htail : Unsaid .welcome tail) : Greeted s.plan early late (t.events ++ tail) := by
  obtain ⟨hearly, hlate⟩ := List.forall_mem_append.1 h.by_mem
  obtain ⟨greeting, parting, hgreeting, hparting, hevents⟩ := h.record
  have hrest : Unsaid .welcome (parting ++ tail) := by
    refine Unsaid.append ?_ htail
    cases hparting <;> simp [Unsaid]
  rw [hs, List.nil_append] at hevents
  cases hgreeting with
  | none hopening hnone =>
    obtain ⟨d, hd, -, hx, -⟩ := hopening.stretch.last_of_error
    refine .refused hopening.takeWhile.1 hd hx hnone ?_
    rw [hevents, hnone]
    simpa using (unsaid_deeds hearly rfl).append hrest
  | @welcome u a hopening =>
    obtain ⟨es, hes, haccepted⟩ := hopening.stretch.leads
    obtain rfl : early.flatMap Deed.events = es := by
      rw [hopening.stretch.events] at hes
      exact List.append_cancel_left hes
    refine .welcomed a (parting ++ tail) (hopening.takeWhile.2 rfl) haccepted (unsaid_deeds hearly rfl) ?_
      ((unsaid_deeds hlate rfl).append hrest)
    rw [hevents]
    simp only [List.append_assoc, List.cons_append, List.nil_append]

/-- The farewell is the last thing of a run that is finished; where something else ended it, nobody took leave. -/
theorem History.parted (h : History c s early late e t) (hs : s.events = []) :
    (e = .finished → ∃ before, t.events = before ++ [⟨.notify .goodbye, some ()⟩] ∧ Unsaid .goodbye before) ∧
      (∀ message, e = .stopped (.rejected message) → Unsaid .goodbye t.events) := by
  obtain ⟨hearly, hlate⟩ := List.forall_mem_append.1 h.by_mem
  obtain ⟨greeting, parting, hgreeting, hparting, hevents⟩ := h.record
  have hbefore : Unsaid .goodbye (early.flatMap Deed.events ++ greeting ++ late.flatMap Deed.events) := by
    refine ((unsaid_deeds hearly rfl).append ?_).append (unsaid_deeds hlate rfl)
    cases hgreeting <;> simp [Unsaid]
  rw [hs, List.nil_append] at hevents
  constructor
  · rintro rfl
    cases hparting with
    | none he => exact absurd rfl he
    | goodbye => exact ⟨_, hevents, hbefore⟩
  · rintro message rfl
    cases hparting with
    | none _ =>
      rw [hevents, List.append_nil]
      exact hbefore

/-! ## the exit status -/

theorem notify_of_hears {n : Notice} (hc : c.Hears n) (s : Session ω) :
    ∃ t, notify c n s = (.ok (), t) ∧ Notified n s (some ()) t := by
  rcases hn : notify c n s with ⟨r, t⟩
  obtain ⟨f, rfl, -⟩ | ⟨rfl, hnotified⟩ := notified_of_notify hn
  · have hok := congrArg Prod.fst hn
    simp [notify, Flow.notify, Dialogue.perform, Dialogue.play, hc s.world] at hok
  · exact ⟨t, rfl, hnotified⟩

theorem reportRejection_of_hears (hc : c.Hears .authFailed) (message : String) (s : Session ω) :
    ∃ t, reportRejection c message s = (.status 1, t) ∧ t.events = s.events ++ [⟨.notify .authFailed, some ()⟩] := by
  obtain ⟨t, hn, hnotified⟩ := notify_of_hears hc { s with log := s.log ++ [rejectionRecord message] }
  refine ⟨t, ?_, hnotified.events⟩
  simp only [reportRejection]
  rw [hn]

/-- A rejection is reported, with one as the status; everything else is left as the run left it. -/
theorem conduct_cases (hc : c.Hears .authFailed) (n : Nat) (s : Session ω) :
    (∃ message, (run c n s).1 = .stopped (.rejected message) ∧ (conduct c n s).1 = .status 1 ∧
      (conduct c n s).2.events = (run c n s).2.events ++ [⟨.notify .authFailed, some ()⟩]) ∨
    ((∀ message, (run c n s).1 ≠ .stopped (.rejected message)) ∧ (conduct c n s).1 ≠ .status 1 ∧
      (conduct c n s).2 = (run c n s).2 ∧ ((conduct c n s).1 = .status 0 → (run c n s).1 = .finished)) := by
  rcases hr : run c n s with ⟨_ | (message | f) | _, t⟩
  · have hd : conduct c n s = (.status 0, t) := by simp only [conduct]; rw [hr]
    rw [hd]
    exact .inr ⟨by simp, by simp, rfl, fun _ => rfl⟩
  · have hd : conduct c n s = reportRejection c message t := by simp only [conduct]; rw [hr]
    obtain ⟨u, hu, hevents⟩ := reportRejection_of_hears hc message t
    rw [hd, hu]
    exact .inl ⟨message, rfl, rfl, hevents⟩
  · have hd : conduct c n s = (.stopped (.fault f), t) := by simp only [conduct]; rw [hr]
    rw [hd]
    exact .inr ⟨by simp, by simp, rfl, by simp⟩
  · have hd : conduct c n s = (.unfinished, t) := by simp only [conduct]; rw [hr]
    rw [hd]
    exact .inr ⟨by simp, by simp, rfl, by simp⟩

/-- **A rejected credential ends a session, and nothing follows it** but its report: the exit status is one exactly if a
call was rejected, and then that call is the last one.  A session that is finished takes leave once, at the end; every
session greets once, after the authentications at the front of its plan, unless one of them is stopped. -/
theorem conduct_rejection (hc : c.Hears .authFailed) (n : Nat) (hs : s.events = []) :
    ((conduct c n s).1 = .status 1 ↔ ∃ e ∈ (conduct c n s).2.events, e.Rejects) ∧
    ((conduct c n s).1 = .status 1 → ∃ before e,
      (conduct c n s).2.events = before ++ [e, ⟨.notify .authFailed, some ()⟩] ∧ e.Rejects ∧ Accepted before ∧
        Unsaid .goodbye before) ∧
    ((conduct c n s).1 = .status 0 → ∃ before,
      (conduct c n s).2.events = before ++ [⟨.notify .goodbye, some ()⟩] ∧ Unsaid .goodbye before) ∧
    ∃ early late, History c s early late (run c n s).1 (run c n s).2 ∧
      Greeted s.plan early late (conduct c n s).2.events := by
  obtain ⟨early, late, h⟩ := run_history c n s
  obtain ⟨hfinished, hrejected⟩ := h.parted hs
  obtain ⟨es, hes, hcloses⟩ := h.leads
  rw [hs, List.nil_append] at hes
  rw [← hes] at hcloses
  rcases conduct_cases hc n s with ⟨message, he, hstatus, hevents⟩ | ⟨he, hstatus, hleft, hzero⟩
  · have hlast : RejectedLast (run c n s).2.events := by
      rw [he] at hcloses
      exact hcloses
    obtain ⟨before, e, hbefore, hrejects, haccepted⟩ := hlast
    have hgoodbye : Unsaid .goodbye before := by
      have hall := hrejected message he
      rw [hbefore] at hall
      exact fun e' he' => hall e' (List.mem_append_left _ he')
    have hrecord : (conduct c n s).2.events = before ++ [e, ⟨.notify .authFailed, some ()⟩] := by
      rw [hevents, hbefore, List.append_assoc]
      rfl
    refine ⟨⟨fun _ => ⟨e, ?_, hrejects⟩, fun _ => hstatus⟩, fun _ => ⟨before, e, hrecord, hrejects, haccepted, hgoodbye⟩,
      ?_, early, late, h, ?_⟩
    · rw [hrecord]
      simp
    · rw [hstatus]
      simp
    · rw [hevents]
      exact h.greeted hs _ (by simp [Unsaid])
  · have haccepted : Accepted (run c n s).2.events := by
      generalize (run c n s).1 = e at he hcloses
      rcases e with _ | (message | f) | _
      · exact hcloses
      · exact absurd rfl (he message)
      · exact hcloses
      · exact hcloses
    rw [hleft]
    refine ⟨⟨fun h1 => absurd h1 hstatus, ?_⟩, fun h1 => absurd h1 hstatus, fun h0 => hfinished (hzero h0), early, late,
      h, ?_⟩
    · rintro ⟨e, hmem, hrejects⟩
      exact absurd hrejects (haccepted e hmem)
    · have hgreeted := h.greeted hs [] (by simp [Unsaid])
      rwa [List.append_nil] at hgreeted

/-- The credential is revoked after the listing, before the listed kit is fetched. -/
def revoked : Session (List Scripted.Prepared × Scripted.User) where
  world := ([{ kind := .ok, data := [("kits", .list [])] },
    { kind := .ok, data := [("kits", .list [.object [("id", .string "abc")]])] }, { kind := .unauthorized }], {})

theorem conduct_rejection_revoked :
    (Counterpart.of Scripted.service Scripted.surface).Hears .authFailed ∧ revoked.events = [] ∧
      (conduct (.of Scripted.service Scripted.surface) 3 revoked).1 = .status 1 ∧
      ∃ before e, (conduct (.of Scripted.service Scripted.surface) 3 revoked).2.events =
        before ++ [e, ⟨.notify .authFailed, some ()⟩] ∧ e.Rejects ∧ Accepted before ∧ Unsaid .goodbye before :=
  ⟨fun _ => rfl, rfl, by decide +kernel,
    (conduct_rejection (c := .of Scripted.service Scripted.surface) (fun _ => rfl) 3 rfl).2.1 (by decide +kernel)⟩

end Session

end KitConsole
