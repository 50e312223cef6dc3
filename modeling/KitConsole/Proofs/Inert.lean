import KitConsole.Proofs.KnownRun
import KitConsole.Proofs.Moments
import KitConsole.Proofs.Stage
import KitConsole.Scripted

/-!
# A finished session is inert

* `Plan.Tidy`, `Plan.Spent` — at most three operations of which `quit` is the last; nothing but at most one `quit`.
* `tidy_of_course` — at each stage, whatever a step schedules leaves a tidy plan, also if it is stopped.
* `Session.Closing`, `Moment.Orderly` — the plan is tidy until `quit` is taken, and spent from then on; what a moment
  must be like for this to last.
* `orderly_next`, `orderly_iterate` — it lasts from one moment to the next, and at all of them.
* `Idles` — a run that only greets and takes its leave; `idles_of_spent` — every run with a spent plan is one.
* `run_inert` — the plan of a session from the start is tidy until `quit` is taken, and once the session is finished, all
  further runs of it are idle.
-/

namespace KitConsole

open KitConsole.Flow Session

variable {ω : Type} {c : Counterpart ω}

/-! ## plans -/

namespace Plan

/-- The plan of a session that goes on. -/
structure Tidy (plan : Plan) : Prop where
  length_le : plan.length ≤ 3
  last : plan.getLast? = some .quit

/-- The plan of a session that has taken `quit`. -/
def Spent (plan : Plan) : Prop := plan = [] ∨ plan = [.quit]

theorem Spent.pop_eq {plan : Plan} (h : plan.Spent) : plan.pop = (.quit, []) := by
  rcases h with rfl | rfl <;> rfl

theorem Spent.head?_ne {plan : Plan} (h : plan.Spent) : plan.head? ≠ some .authenticate := by
  rcases h with rfl | rfl <;> decide

theorem Tidy.of_append {ops plan : Plan} (h : Tidy (ops ++ plan)) (hne : plan ≠ []) : Tidy plan := by
  have hlength := h.length_le
  have hlast := h.last
  rw [List.length_append] at hlength
  rw [List.getLast?_append, List.getLast?_eq_some_getLast hne, Option.some_or] at hlast
  rw [← List.getLast?_eq_some_getLast hne] at hlast
  exact ⟨by omega, hlast⟩

theorem tidy_append_quit {ops : List Operation} (h : ops.length ≤ 2) : Tidy (ops ++ [.quit]) := by
  constructor
  · rw [List.length_append, List.length_singleton]
    omega
  · exact List.getLast?_concat

end Plan

namespace Session

/-! ## the stages -/

variable {A : Answers} {σ : Stage} {op : Operation} {rest : Plan} {last : Json} {es : List Event} {ops : List Operation}
  {x : Except Stop Json}

theorem At.tidy {plan : Plan} (h : At σ plan last) : plan.Tidy := by
  cases h with
  | closing hplan => rcases hplan with rfl | rfl <;> exact ⟨by decide, rfl⟩
  | _ => exact ⟨by decide, rfl⟩

theorem At.ne_nil (h : At σ (op :: rest) last) (hop : op ≠ .quit) : rest ≠ [] := by
  cases h with
  | closing hplan =>
    rcases hplan with hplan | hplan <;> exact absurd (List.cons.inj hplan).1 hop
  | _ => simp

/-- Once `quit` comes up, only a second one may follow it. -/
theorem At.spent {plan : Plan} (h : At σ plan last) (hquit : plan.pop.1 = .quit) : plan.pop.2.Spent := by
  obtain rfl := h.closing_of_quit hquit
  cases h with
  | closing hplan =>
    rcases hplan with rfl | rfl
    · exact .inl rfl
    · exact .inr rfl

theorem length_of_listing (h : Listing A es ops x) : ops.length ≤ 1 := by
  cases h with
  | listed _ _ _ hoffering => cases hoffering <;> simp
  | _ => simp

/-- **Whatever a step schedules leaves a tidy plan**, whether it is stopped or not. -/
theorem tidy_of_course (hσ : At σ (op :: rest) last) (hop : op ≠ .quit) (h : (step op last).Course A es ops x) :
    Plan.Tidy (ops ++ rest) := by
  cases hσ with
  | opening =>
    obtain ⟨rfl, -⟩ := course_authenticate h
    exact ⟨by decide, rfl⟩
  | menu =>
    rcases course_chooseOperation h with ⟨-, -, -, rfl, -⟩ | ⟨i, -, -, rfl, -⟩
    · exact ⟨by decide, rfl⟩
    · exact (menu_meets rfl i).tidy
  | listing =>
    have hlength := length_of_listing (course_listAndChoose h)
    apply Plan.tidy_append_quit
    omega
  | creating =>
    obtain ⟨rfl, -⟩ := course_collectFields h
    exact ⟨by decide, rfl⟩
  | @created fields =>
    obtain ⟨rfl, -⟩ := course_save (fieldsOf_put .null fields) h
    exact ⟨by decide, rfl⟩
  | @acting id =>
    rcases course_chooseAction h with ⟨-, -, -, rfl, -⟩ | ⟨i, -, -, rfl, -⟩
    · exact ⟨by decide, rfl⟩
    · exact (action_meets id i).tidy
  | viewing =>
    obtain ⟨rfl, -⟩ := course_view rfl h
    exact ⟨by decide, rfl⟩
  | viewed =>
    rcases course_afterView h with ⟨-, -, -, rfl, -⟩ | ⟨edit, -, -, rfl, -⟩
    · exact ⟨by decide, rfl⟩
    · apply Plan.tidy_append_quit
      cases edit <;> decide
  | editing =>
    obtain ⟨rfl, -⟩ := course_collectFields h
    exact ⟨Nat.le_refl 3, rfl⟩
  | @saving id fields =>
    obtain ⟨rfl, -⟩ := course_save (fieldsOf_put (.string id) fields) h
    exact ⟨by decide, rfl⟩
  | deleting =>
    obtain ⟨rfl, -⟩ := course_delete rfl h
    exact ⟨by decide, rfl⟩
  | closing hplan =>
    rcases hplan with hplan | hplan <;> exact absurd (List.cons.inj hplan).1 hop

/-- The plan is tidy until `quit` is taken, which is the last operation, and spent from then on. -/
inductive Closing (s : Session ω) : Prop
  | ongoing : .quit ∉ s.operations → s.plan.Tidy → Closing s
  | quitted : s.operations.getLast? = some .quit → s.plan.Spent → Closing s

end Session

/-! ## the moments -/

namespace Moment

def session : Moment ω → Session ω
  | between _ _ s => s
  | within _ _ _ s => s
  | ended r => r.2

/-- Between two operations the session is at a stage; within one, every course that its dialogue can still take leaves a
tidy plan and, if it is not stopped, leads to a stage; at the end, a session that is finished has a spent plan. -/
inductive Orderly : Moment ω → Prop
  | between {greeted : Bool} {n : Nat} {s : Session ω} {σ : Stage} : At σ s.plan s.last → .quit ∉ s.operations →
      Orderly (between greeted n s)
  | within {greeted : Bool} {n : Nat} {d : Dialogue Json} {s : Session ω} : s.plan ≠ [] → .quit ∉ s.operations →
      (∀ es ops x, d.Course Answers.any es ops x →
        Plan.Tidy (ops ++ s.plan) ∧ ∀ v, x = .ok v → ∃ σ, At σ (ops ++ s.plan) v) →
      Orderly (within greeted n d s)
  | ended {e : Ending} {s : Session ω} : s.Closing → (e = .finished → s.plan.Spent) → Orderly (ended (e, s))

variable {greeted : Bool} {n : Nat} {d : Dialogue Json} {s : Session ω} {m : Moment ω}

/-- A dialogue has a course, if only the one that is cut off at its first question. -/
theorem exists_course (d : Dialogue Json) : ∃ es ops x, d.Course Answers.any es ops x := by
  induction d with
  | done v => exact ⟨[], [], .ok v, rfl, rfl, rfl⟩
  | fail x => exact ⟨[], [], .error x, rfl, rfl, rfl⟩
  | push ops next ih =>
    obtain ⟨es, ops', x, h⟩ := ih
    exact ⟨es, ops' ++ ops, x, ops', h, rfl⟩
  | note r next ih => exact ih
  | ask e next _ => exact ⟨_, [], _, .inl ⟨.endOfInput, trivial, rfl, rfl, rfl⟩⟩

theorem Orderly.closing (h : Orderly m) : m.session.Closing := by
  cases h with
  | between hσ hops => exact .ongoing hops hσ.tidy
  | @within greeted n d s hne hops hcourse =>
    obtain ⟨es, ops, x, h⟩ := exists_course d
    exact .ongoing hops ((hcourse es ops x h).1.of_append hne)
  | ended hclosing _ => exact hclosing

/-- An operation is begun that was in front of the plan at a stage. -/
theorem orderly_begin {σ : Stage} {op : Operation} {rest : Plan} (hσ : At σ (op :: rest) s.last) (hop : op ≠ .quit)
    (hops : .quit ∉ s.operations) : Orderly (begin greeted n op { s with plan := rest }) := by
  refine .within (hσ.ne_nil hop) ?_ fun es ops x h => ⟨tidy_of_course hσ hop h, ?_⟩
  · show Operation.quit ∉ s.operations ++ [op]
    simp [hops, Ne.symm hop]
  · rintro v rfl
    obtain ⟨r, -, hmeets⟩ := move_of_course hσ hop h
    cases hmeets with
    | ok hτ => exact ⟨_, hτ⟩

theorem orderly_opening {σ : Stage} (hσ : At σ s.plan s.last) (hops : .quit ∉ s.operations) :
    Orderly (opening c n s) := by
  by_cases hhead : s.plan.head? = some .authenticate
  · obtain ⟨rest, hplan⟩ := List.head?_eq_some_iff.1 hhead
    rw [opening_of_authenticate hplan]
    rw [hplan] at hσ
    exact orderly_begin hσ (by simp) hops
  · rw [opening_of_ne hhead]
    rcases hn : notify c .welcome s with ⟨r, t⟩
    obtain ⟨f, rfl, ht⟩ | ⟨rfl, ht⟩ := notified_of_notify hn
    · refine .ended (.ongoing (ht.operations ▸ hops) ?_) (by simp)
      rw [ht.plan]
      exact hσ.tidy
    · refine .between (σ := σ) ?_ (ht.operations ▸ hops)
      rw [ht.plan, ht.last]
      exact hσ

/-- Where `quit` comes up, the rest of the plan is spent. -/
theorem orderly_farewell (hspent : s.plan.pop.2.Spent) : Orderly (ended (farewell c s.quitted)) := by
  have hlast : s.quitted.operations.getLast? = some .quit := List.getLast?_concat
  rcases hfarewell : farewell c s.quitted with ⟨e, t⟩
  obtain ⟨f, rfl, ht⟩ | ⟨rfl, ht⟩ := notified_of_farewell hfarewell
  all_goals
    have htspent : t.plan.Spent := ht.plan ▸ hspent
    exact .ended (.quitted (ht.operations ▸ hlast) htspent) fun _ => htspent

theorem orderly_proceed {σ : Stage} (hσ : At σ s.plan s.last) (hops : .quit ∉ s.operations) :
    Orderly (proceed c n s) := by
  unfold proceed
  by_cases hquit : s.plan.pop.1 = .quit
  · simp only [hquit, if_true]
    exact orderly_farewell (hσ.spent hquit)
  · simp only [if_neg hquit]
    rcases hplan : s.plan with _ | ⟨op, rest⟩
    · exact absurd (by rw [hplan]; rfl) hquit
    · rw [hplan] at hσ hquit
      exact orderly_begin hσ hquit hops

theorem orderly_carryOn (hne : s.plan ≠ []) (hops : .quit ∉ s.operations)
    (hcourse : ∀ es ops x, d.Course Answers.any es ops x →
      Plan.Tidy (ops ++ s.plan) ∧ ∀ v, x = .ok v → ∃ σ, At σ (ops ++ s.plan) v) :
    Orderly (carryOn c greeted n d s) := by
  have htidy : s.plan.Tidy := by
    obtain ⟨es, ops, x, h⟩ := exists_course d
    exact (hcourse es ops x h).1.of_append hne
  cases d with
  | done v =>
    obtain ⟨σ, hσ⟩ := (hcourse [] [] (.ok v) ⟨rfl, rfl, rfl⟩).2 v rfl
    exact .between hσ hops
  | fail x => exact .ended (.ongoing hops htidy) (by simp)
  | push ops next =>
    refine .within (by simp [Plan.push, hne]) hops fun es ops' x h => ?_
    rw [Plan.push, ← List.append_assoc]
    exact hcourse es (ops' ++ ops) x ⟨ops', h, rfl⟩
  | note r next => exact .within hne hops hcourse
  | ask e next =>
    simp only [carryOn]
    rcases ht : (c e s.world).result with f | a
    · exact .ended (.ongoing hops htidy) (by simp)
    · exact .within hne hops fun es ops x h => hcourse (⟨e, some a⟩ :: es) ops x (.inr ⟨a, es, trivial, h, rfl⟩)

/-- **One more step keeps a moment orderly.** -/
theorem orderly_next (h : Orderly m) : Orderly (next c m) := by
  cases h with
  | @between greeted n s σ hσ hops =>
    cases greeted with
    | false => exact orderly_opening hσ hops
    | true =>
      cases n with
      | zero => exact .ended (.ongoing hops hσ.tidy) (by simp)
      | succ n => exact orderly_proceed hσ hops
  | within hne hops hcourse => exact orderly_carryOn hne hops hcourse
  | ended hclosing hspent => exact .ended hclosing hspent

theorem orderly_iterate (h : Orderly m) (k : Nat) : Orderly ((next c)^[k] m) := by
  induction k with
  | zero => exact h
  | succ k ih =>
    rw [Function.iterate_succ_apply']
    exact orderly_next ih

end Moment

namespace Session

variable {s t : Session ω}

/-! ## idle runs -/

/-- A run that only greets and takes its leave, with `quit` as its one operation; it is stopped where the greeting or the
leave fails. -/
inductive Idles (c : Counterpart ω) (s : Session ω) : Ending × Session ω → Prop
  | finished {t : Session ω} :
      t.events = s.events ++ [⟨.notify .welcome, some ()⟩, ⟨.notify .goodbye, some ()⟩] →
      t.operations = s.operations ++ [.quit] → Idles c s (.finished, t)
  | unwelcomed {t : Session ω} {f : Fault} : (c (.notify .welcome) s.world).result = .error f →
      t.events = s.events ++ [⟨.notify .welcome, none⟩] → t.operations = s.operations →
      Idles c s (.stopped (.fault f), t)
  | unparted {t : Session ω} {f : Fault} :
      (c (.notify .goodbye) (c (.notify .welcome) s.world).world).result = .error f →
      t.events = s.events ++ [⟨.notify .welcome, some ()⟩, ⟨.notify .goodbye, none⟩] →
      t.operations = s.operations ++ [.quit] → Idles c s (.stopped (.fault f), t)

/-- The session after further runs, of at most so many operations each after the leading authentications. -/
def further (c : Counterpart ω) (ms : List Nat) (s : Session ω) : Session ω :=
  ms.foldl (fun s m => (run c (m + 1) s).2) s

theorem fault_of_notify {n : Notice} {f : Fault} (h : notify c n s = (.error (.fault f), t)) :
    (c (.notify n) s.world).result = .error f := by
  have hplay : notify c n s = (Flow.notify n).play c s := rfl
  rw [hplay, Flow.notify, Dialogue.perform, Dialogue.play] at h
  rcases hresult : (c (.notify n) s.world).result with g | a
  · simp only [hresult] at h
    obtain rfl := Stop.fault.inj (Except.error.inj (Prod.mk.inj h).1)
    rfl
  · simp [hresult, Dialogue.play] at h

theorem world_of_notify {n : Notice} {r : Except Stop Unit} (h : notify c n s = (r, t)) :
    t.world = (c (.notify n) s.world).world := by
  obtain rfl : (notify c n s).2 = t := by rw [h]
  show ((Flow.notify n).play c s).2.world = _
  rw [Flow.notify, Dialogue.perform, Dialogue.play]
  rcases hresult : (c (.notify n) s.world).result with f | a <;> rfl

theorem fault_of_farewell {f : Fault} (h : farewell c s = (.stopped (.fault f), t)) :
    (c (.notify .goodbye) s.world).result = .error f := by
  unfold farewell at h
  rcases hn : notify c .goodbye { s with log := s.log ++ [finishRecord s.operations] } with ⟨x | ⟨⟩, u⟩
  · simp only [hn] at h
    obtain rfl := Ending.stopped.inj (Prod.mk.inj h).1
    have hresult := fault_of_notify hn
    exact hresult
  · simp [hn] at h

/-- With a spent plan a run goes straight from the greeting to the leave. -/
theorem run_of_spent (hspent : s.plan.Spent) (m : Nat) :
    run c (m + 1) s = match notify c .welcome s with
      | (.error x, t) => (.stopped x, t)
      | (.ok (), t) => farewell c t.quitted := by
  unfold run
  rw [authenticateFirst_of_ne hspent.head?_ne]
  show proceed c (m + 1) s = _
  unfold proceed
  rcases hn : notify c .welcome s with ⟨x | ⟨⟩, t⟩
  · rfl
  · have hquit : t.plan.pop.1 = .quit := by
      rw [(notified_of_ok hn).plan, hspent.pop_eq]
    simp only [operate_of_quit hquit]

/-- **Every run with a spent plan is idle**, and its plan is spent afterwards. -/
theorem idles_of_spent (hspent : s.plan.Spent) (m : Nat) :
    Idles c s (run c (m + 1) s) ∧ (run c (m + 1) s).2.plan.Spent := by
  rw [run_of_spent hspent]
  rcases hn : notify c .welcome s with ⟨r, t⟩
  obtain ⟨f, rfl, ht⟩ | ⟨rfl, ht⟩ := notified_of_notify hn
  · refine ⟨.unwelcomed (fault_of_notify hn) ht.events ht.operations, ?_⟩
    show t.plan.Spent
    rw [ht.plan]
    exact hspent
  · show Idles c s (farewell c t.quitted) ∧ (farewell c t.quitted).2.plan.Spent
    have hplan : t.quitted.plan = [] := by
      show t.plan.pop.2 = []
      rw [ht.plan, hspent.pop_eq]
    have hoperations : t.quitted.operations = s.operations ++ [.quit] := by
      show t.operations ++ [.quit] = _
      rw [ht.operations]
    rcases hfarewell : farewell c t.quitted with ⟨e, u⟩
    obtain ⟨f, rfl, hu⟩ | ⟨rfl, hu⟩ := notified_of_farewell hfarewell
    · refine ⟨.unparted ?_ ?_ (hu.operations.trans hoperations), .inl (hu.plan.trans hplan)⟩
      · have hresult := fault_of_farewell hfarewell
        rw [← world_of_notify hn]
        exact hresult
      · rw [hu.events]
        show t.events ++ _ = _
        rw [ht.events, List.append_assoc]
        rfl
    · refine ⟨.finished ?_ (hu.operations.trans hoperations), .inl (hu.plan.trans hplan)⟩
      rw [hu.events]
      show t.events ++ _ = _
      rw [ht.events, List.append_assoc]
      rfl

/-- After further runs a spent plan is still spent. -/
theorem spent_further (hspent : s.plan.Spent) (ms : List Nat) : (further c ms s).plan.Spent := by
  induction ms generalizing s with
  | nil => exact hspent
  | cons m ms ih => exact ih (idles_of_spent hspent m).2

/-- **A finished session is inert.**  At each moment of a session from the start, the plan has at most three operations
and `quit` as the last one, or `quit` has been taken off it and at most a second one is left; the run is over at one of
these moments.  Once it is finished, all runs that follow are idle. -/
theorem run_inert (c : Counterpart ω) (n : Nat) (w : ω) :
    let start : Session ω := { world := w }
    (∀ k, ((Moment.next c)^[k] (.between false n start)).session.Closing) ∧
      (∃ k, (Moment.next c)^[k] (.between false n start) = .ended (run c n start)) ∧
      ((run c n start).1 = .finished → (run c n start).2.plan.Spent ∧
        ∀ ms m, Idles c (further c ms (run c n start).2) (run c (m + 1) (further c ms (run c n start).2))) := by
  intro start
  have horderly : Moment.Orderly (.between false n start) := .between .startup (by simp [start])
  refine ⟨fun k => (Moment.orderly_iterate horderly k).closing, Moment.reaches_run c n start, fun hfinished => ?_⟩
  have hspent : (run c n start).2.plan.Spent := by
    obtain ⟨k, hk⟩ := Moment.reaches_run c n start
    have hended : Moment.Orderly (.ended (run c n start)) := hk ▸ Moment.orderly_iterate horderly k
    generalize run c n start = r at hended hfinished ⊢
    cases hended with
    | ended _ hspent => exact hspent hfinished
  exact ⟨hspent, fun ms m => (idles_of_spent (spent_further hspent ms) m).1⟩

/-- The listing fails, and leaves a `quit` of its own below the one that is taken. -/
theorem run_inert_unlisted :
    let c := Counterpart.of Scripted.service Scripted.surface
    let s := (run c 3 { world := ([], {}) }).2
    s.plan = [.quit] ∧ ∀ ms m, Idles c (further c ms s) (run c (m + 1) (further c ms s)) := by
  intro c s
  have hfinished : (run c 3 { world := ([], {}) }).1 = .finished := by decide +kernel
  exact ⟨by decide +kernel, ((run_inert c 3 ([], {})).2.2 hfinished).2⟩

end Session

end KitConsole
