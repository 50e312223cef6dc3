import KitConsole.Proofs.Course

/-!
# The courses of the steps

* `Told`, `Reacts`, `Exchange` — a notice, what a reply leads to, and a call with what its reply leads to.
* `Fetching`, `Offering`, `Listing` — the kits fetched one by one, the kits offered, and the whole step from the
  listing on.
* `course_authenticate`, …, `course_delete` — each step has only the courses described.  They say all that a step can
  do to the world, the plan and the result, so that no later proof unfolds a step.
-/

namespace KitConsole.Flow

open Dialogue

variable {A : Answers} {es : List Event} {ops : List Operation} {β γ : Type}

theorem call_bind (c : Call) (f : Reply → Dialogue β) : (call c >>= f) = ask (.call c) f := rfl

theorem notify_bind (n : Notice) (f : Unit → Dialogue β) : (notify n >>= f) = ask (.notify n) f := rfl

theorem confirm_bind (q : String) (f : Bool → Dialogue β) : (confirm q >>= f) = ask (.confirm q) f := rfl

/-! ## replies -/

/-- A notice is heard or meets a fault; where there is none, nothing happens. -/
inductive Told (A : Answers) : Option Notice → List Event → Option Fault → Prop
  | silent : Told A none [] none
  | heard {n : Notice} : A (.notify n) (.ok ()) → Told A (some n) [⟨.notify n, some ()⟩] none
  | fault {n : Notice} {f : Fault} : A (.notify n) (.error f) → Told A (some n) [⟨.notify n, none⟩] (some f)

/-- What the user is told of a reply, where `shown` says it of a success and of an error. -/
def reaction (shown : Reply → Option Notice) (reply : Reply) : Option Notice :=
  if reply.kind = .malformed then some .unexpectedResponse else shown reply

def endOf : Option Fault → Except Stop Unit
  | none => .ok ()
  | some f => .error (.fault f)

/-- What a reply leads to: a rejection ends the session, any other one is reported. -/
inductive Reacts (A : Answers) (shown : Reply → Option Notice) (reply : Reply) : List Event → Except Stop Unit → Prop
  | rejected : reply.kind = .unauthorized → Reacts A shown reply [] (.error (.rejected (rejectionText reply)))
  | told {es : List Event} {f : Option Fault} : reply.kind ≠ .unauthorized → Told A (reaction shown reply) es f →
      Reacts A shown reply es (endOf f)

/-- A call: a fault in place of the reply, or the reply with what it leads to. -/
inductive Exchange (A : Answers) (c : Call) (shown : Reply → Option Notice) : List Event → Except Stop Reply → Prop
  | fault {f : Fault} : A (.call c) (.error f) → Exchange A c shown [⟨.call c, none⟩] (.error (.fault f))
  | answered {reply : Reply} {es : List Event} {x : Except Stop Unit} : A (.call c) (.ok reply) →
      Reacts A shown reply es x → Exchange A c shown (⟨.call c, some reply⟩ :: es) (x.map fun _ => reply)

/-- A call that does not end well met a fault, or its reply led to the end. -/
theorem Exchange.of_error {c : Call} {shown : Reply → Option Notice} {x : Stop}
    (h : Exchange A c shown es (.error x)) :
    (∃ f, A (.call c) (.error f) ∧ x = .fault f ∧ es = [⟨.call c, none⟩]) ∨
      ∃ reply es', A (.call c) (.ok reply) ∧ Reacts A shown reply es' (.error x) ∧
        es = ⟨.call c, some reply⟩ :: es' := by
  generalize hr : (Except.error x : Except Stop Reply) = r at h
  cases h with
  | fault hf => exact .inl ⟨_, hf, Except.error.inj hr, rfl⟩
  | @answered reply es' y ha hy =>
    cases y with
    | error y =>
      obtain rfl := Except.error.inj hr
      exact .inr ⟨reply, es', ha, hy, rfl⟩
    | ok _ => simp [Except.map] at hr

theorem Exchange.of_ok {c : Call} {shown : Reply → Option Notice} {reply : Reply}
    (h : Exchange A c shown es (.ok reply)) :
    ∃ es', A (.call c) (.ok reply) ∧ Reacts A shown reply es' (.ok ()) ∧ es = ⟨.call c, some reply⟩ :: es' := by
  generalize hr : (Except.ok reply : Except Stop Reply) = r at h
  cases h with
  | fault _ => simp at hr
  | @answered reply' es' y ha hy =>
    cases y with
    | error _ => simp [Except.map] at hr
    | ok _ =>
      obtain rfl := Except.ok.inj hr
      exact ⟨es', ha, hy, rfl⟩

/-- An error is shown; nothing is said of a success. -/
def failureNotice (reply : Reply) : Option Notice :=
  if reply.ok then none else some (.showError reply.errorText)

/-- A success leads to nothing. -/
theorem reacts_of_ok {reply : Reply} {x : Except Stop Unit} (h : Reacts A failureNotice reply es x)
    (hok : reply.ok = true) : es = [] ∧ x = .ok () := by
  have hkind : reply.kind = .ok := by simpa [Reply.ok] using hok
  cases h with
  | rejected h => simp [hkind] at h
  | told _ ht =>
    rw [reaction, if_neg (by simp [hkind]), failureNotice, if_pos hok] at ht
    cases ht with
    | silent => exact ⟨rfl, rfl⟩

def tell (n : Option Notice) (v : β) : Dialogue β :=
  match n with
  | none => done v
  | some n => ask (.notify n) fun _ => done v

theorem course_tell {n : Option Notice} {v : β} {r : Except Stop β} (h : (tell n v).Course A es ops r) :
    ops = [] ∧ ∃ f, Told A n es f ∧ r = (endOf f).map fun _ => v := by
  cases n with
  | none =>
    obtain ⟨rfl, rfl, rfl⟩ := h
    exact ⟨rfl, none, .silent, rfl⟩
  | some n =>
    rcases h with ⟨f, hf, rfl, rfl, rfl⟩ | ⟨u, es', hu, ⟨rfl, rfl, rfl⟩, rfl⟩
    · exact ⟨rfl, some f, .fault hf, rfl⟩
    · exact ⟨rfl, none, .heard hu, rfl⟩

/-- A reply that is accepted or not, and then reported by `shown`, leads to what `Reacts` describes. -/
theorem course_accept_bind {shown : Reply → Option Notice} {reply : Reply} {v : β} {k : Bool → Dialogue β}
    {r : Except Stop β} (hok : reply.kind = .ok ∨ reply.kind = .error → k true = tell (shown reply) v)
    (hbad : reply.kind = .malformed → k false = done v) (h : (accept reply >>= k).Course A es ops r) :
    ops = [] ∧ ∃ x, Reacts A shown reply es x ∧ r = x.map fun _ => v := by
  have usable : reply.kind = .ok ∨ reply.kind = .error → (k true).Course A es ops r →
      ops = [] ∧ ∃ x, Reacts A shown reply es x ∧ r = x.map fun _ => v := by
    intro hk hc
    rw [hok hk] at hc
    obtain ⟨rfl, f, hf, rfl⟩ := course_tell hc
    have hreact : reaction shown reply = shown reply := if_neg (by rcases hk with hk | hk <;> simp [hk])
    exact ⟨rfl, _, .told (by rcases hk with hk | hk <;> simp [hk]) (hreact ▸ hf), rfl⟩
  cases hk : reply.kind with
  | ok =>
    simp only [accept, hk] at h
    exact usable (.inl hk) h
  | error =>
    simp only [accept, hk] at h
    exact usable (.inr hk) h
  | unauthorized =>
    simp only [accept, hk] at h
    obtain ⟨rfl, rfl, rfl⟩ := h
    exact ⟨rfl, _, .rejected hk, rfl⟩
  | malformed =>
    simp only [accept, hk] at h
    have hc : (tell (some .unexpectedResponse) v).Course A es ops r := by
      rw [tell, ← hbad hk]
      exact h
    obtain ⟨rfl, f, hf, rfl⟩ := course_tell hc
    have hreact : reaction shown reply = some .unexpectedResponse := if_pos hk
    exact ⟨rfl, _, .told (by simp [hk]) (hreact ▸ hf), rfl⟩

theorem course_succeeded {reply : Reply} {r : Except Stop Bool} (h : (succeeded reply).Course A es ops r) :
    ops = [] ∧ ∃ x, Reacts A failureNotice reply es x ∧ r = x.map fun _ => reply.ok := by
  refine course_accept_bind (fun hk => ?_) (fun hk => ?_) h
  · rcases hk with hk | hk
    · simp [failureNotice, Reply.ok, hk, tell, pure_eq]
    · simp [failureNotice, Reply.ok, hk, tell, pure_eq, notify_bind]
  · simp [Reply.ok, hk, pure_eq]

section Exchange

variable {shown : Reply → Option Notice} {c : Call} {d : Reply → Dialogue β} {value : Reply → β}
  (hd : ∀ reply es ops r, (d reply).Course A es ops r →
    ops = [] ∧ ∃ x, Reacts A shown reply es x ∧ r = x.map fun _ => value reply)
include hd

theorem course_call_bind {r : Except Stop β} (h : (call c >>= d).Course A es ops r) :
    ops = [] ∧ ∃ x, Exchange A c shown es x ∧ r = x.map value := by
  rw [call_bind] at h
  rcases h with ⟨f, hf, rfl, rfl, rfl⟩ | ⟨reply, es', ha, hr, rfl⟩
  · exact ⟨rfl, _, .fault hf, rfl⟩
  · obtain ⟨rfl, x, hx, rfl⟩ := hd reply es' ops r hr
    exact ⟨rfl, _, .answered ha hx, by cases x <;> rfl⟩

theorem course_call_bind_bind {k : Reply → β → Dialogue γ} {r : Except Stop γ}
    (h : (call c >>= fun reply => d reply >>= k reply).Course A es ops r) :
    (∃ x, Exchange A c shown es (.error x) ∧ ops = [] ∧ r = .error x) ∨
    ∃ es₁ es₂ reply, Exchange A c shown es₁ (.ok reply) ∧ (k reply (value reply)).Course A es₂ ops r ∧
      es = es₁ ++ es₂ := by
  rw [call_bind] at h
  rcases h with ⟨f, hf, rfl, rfl, rfl⟩ | ⟨reply, es', ha, hr, rfl⟩
  · exact .inl ⟨_, .fault hf, rfl, rfl⟩
  · rcases course_bind_iff.1 hr with ⟨y, hy, rfl⟩ | ⟨es₁, ops₁, b, es₂, ops₂, h₁, h₂, rfl, rfl⟩
    · obtain ⟨rfl, x, hx, hxy⟩ := hd reply _ _ _ hy
      cases x with
      | error z =>
        obtain rfl := Except.error.inj hxy
        exact .inl ⟨_, .answered ha hx, rfl, rfl⟩
      | ok u => simp [Except.map] at hxy
    · obtain ⟨rfl, x, hx, hxb⟩ := hd reply _ _ _ h₁
      cases x with
      | error z => simp [Except.map] at hxb
      | ok u =>
        obtain rfl := Except.ok.inj hxb
        exact .inr ⟨_, es₂, reply, .answered ha hx, by simpa using h₂, rfl⟩

end Exchange

/-- A call whose reply is shown by `n`, with a result that does not depend on it. -/
theorem course_shown {c : Call} {n : Reply → Notice} {v : β} {k : Reply → Bool → Dialogue β} {r : Except Stop β}
    (h : (call c >>= fun reply => accept reply >>= k reply).Course A es ops r)
    (htrue : ∀ reply, k reply true = tell (some (n reply)) v) (hfalse : ∀ reply, k reply false = done v) :
    ops = [] ∧ ∃ x, Exchange A c (fun reply => some (n reply)) es x ∧ r = x.map fun _ => v :=
  course_call_bind (fun reply _ _ _ => course_accept_bind (fun _ => htrue reply) (fun _ => hfalse reply)) h

/-! ## the kits of a listing -/

/-- The kits so far with more, given by their ids and names. -/
def offerAll (kits : Entries String) (named : List (String × String)) : Entries String :=
  named.foldl (fun kits kit => offer kits kit.1 kit.2) kits

/-- Kits with the names that they are offered under. -/
def named (ids : List String) (infos : List Reply) : List (String × String) :=
  List.zipWith (fun id info => (id, kitName id info)) ids infos

/-- Kits fetched one after the other: all of them, or up to the first one that is not a success. -/
inductive Fetching (A : Answers) : List String → List Event → Except Stop (Option (List Reply)) → Prop
  | nil : Fetching A [] [] (.ok (some []))
  | stopped {id : String} {ids : List String} {es : List Event} {x : Stop} :
      Exchange A (.getKit (.string id)) failureNotice es (.error x) → Fetching A (id :: ids) es (.error x)
  | refused {id : String} {ids : List String} {es : List Event} {info : Reply} :
      Exchange A (.getKit (.string id)) failureNotice es (.ok info) → info.ok = false →
      Fetching A (id :: ids) es (.ok none)
  | fetched {id : String} {ids : List String} {es₁ es₂ : List Event} {info : Reply}
      {x : Except Stop (Option (List Reply))} :
      Exchange A (.getKit (.string id)) failureNotice es₁ (.ok info) → info.ok = true → Fetching A ids es₂ x →
      Fetching A (id :: ids) (es₁ ++ es₂) (x.map fun infos => infos.map (info :: ·))

theorem course_fetchKits : ∀ {ids : List String} {kits : Entries String} {es : List Event} {ops : List Operation}
    {r : Except Stop (Option (Entries String))}, (fetchKits ids kits).Course A es ops r →
    ops = [] ∧ ∃ x, Fetching A ids es x ∧
      r = x.map fun infos => infos.map fun infos => offerAll kits (named ids infos) := by
  intro ids
  induction ids with
  | nil =>
    rintro kits es ops r ⟨rfl, rfl, rfl⟩
    exact ⟨rfl, _, .nil, rfl⟩
  | cons id ids ih =>
    intro kits es ops r h
    rw [fetchKits] at h
    rcases course_call_bind_bind (fun _ _ _ _ => course_succeeded) h with
      ⟨x, hx, rfl, rfl⟩ | ⟨es₁, es₂, info, hx, hk, rfl⟩
    · exact ⟨rfl, _, .stopped hx, rfl⟩
    · cases hinfo : info.ok with
      | false =>
        rw [hinfo, if_neg (by simp)] at hk
        obtain ⟨rfl, rfl, rfl⟩ := hk
        exact ⟨rfl, _, .refused (by simpa using hx) hinfo, rfl⟩
      | true =>
        rw [hinfo, if_pos rfl] at hk
        obtain ⟨rfl, x, hfetch, rfl⟩ := ih hk
        refine ⟨rfl, _, .fetched hx hinfo hfetch, ?_⟩
        cases x with
        | error y => rfl
        | ok infos => cases infos <;> rfl

def createQuestion : String := "No Kits found! Would you like to create one?"

/-- The listed kits offered by name, or a new one where there are none. -/
inductive Offering (A : Answers) : List String → List Event → List Operation → Except Stop Json → Prop
  | unasked {f : Fault} : A (.confirm createQuestion) (.error f) →
      Offering A [] [⟨.confirm createQuestion, none⟩] [] (.error (.fault f))
  | asked {create : Bool} : A (.confirm createQuestion) (.ok create) →
      Offering A [] [⟨.confirm createQuestion, some create⟩] [if create then .collectFields else .quit] (.ok .null)
  | stopped {ids : List String} {es : List Event} {x : Stop} : ids ≠ [] → Fetching A ids es (.error x) →
      Offering A ids es [] (.error x)
  | refused {ids : List String} {es : List Event} : ids ≠ [] → Fetching A ids es (.ok none) →
      Offering A ids es [.quit] (.ok .null)
  | unchosen {ids : List String} {es : List Event} {infos : List Reply} {f : Fault} : ids ≠ [] →
      Fetching A ids es (.ok (some infos)) → A (.chooseKit (kitMenu (offerAll [] (named ids infos)))) (.error f) →
      Offering A ids (es ++ [⟨.chooseKit (kitMenu (offerAll [] (named ids infos))), none⟩]) [] (.error (.fault f))
  | chosen {ids : List String} {es : List Event} {infos : List Reply}
      {i : Fin (kitMenu (offerAll [] (named ids infos))).labels.length} : ids ≠ [] →
      Fetching A ids es (.ok (some infos)) → A (.chooseKit (kitMenu (offerAll [] (named ids infos)))) (.ok i) →
      Offering A ids (es ++ [⟨.chooseKit (kitMenu (offerAll [] (named ids infos))), some i⟩]) [.chooseAction]
        (.ok (.string ((kitMenu (offerAll [] (named ids infos))).value i)))

theorem course_chooseListed {ids : List String} {r : Except Stop Json} (h : (chooseListed ids).Course A es ops r) :
    Offering A ids es ops r := by
  unfold chooseListed at h
  cases ids with
  | nil =>
    rw [if_pos List.isEmpty_nil, confirm_bind] at h
    rcases h with ⟨f, hf, rfl, rfl, rfl⟩ | ⟨create, es', hc, ⟨ops', ⟨rfl, rfl, rfl⟩, rfl⟩, rfl⟩
    · exact .unasked hf
    · exact .asked hc
  | cons id ids =>
    rw [if_neg (by simp)] at h
    rcases course_bind_iff.1 h with ⟨x, hx, rfl⟩ | ⟨es₁, ops₁, kits, es₂, ops₂, h₁, h₂, rfl, rfl⟩
    · obtain ⟨rfl, y, hy, hxy⟩ := course_fetchKits hx
      cases y with
      | error z =>
        obtain rfl := Except.error.inj hxy
        exact .stopped (by simp) hy
      | ok infos => simp [Except.map] at hxy
    · obtain ⟨rfl, y, hy, hkits⟩ := course_fetchKits h₁
      rcases y with z | _ | infos
      · simp [Except.map] at hkits
      · obtain rfl := Except.ok.inj hkits
        obtain ⟨ops', ⟨rfl, rfl, rfl⟩, rfl⟩ := h₂
        simpa using Offering.refused (by simp) hy
      · obtain rfl := Except.ok.inj hkits
        rcases h₂ with ⟨f, hf, rfl, rfl, rfl⟩ | ⟨i, es', hi, ⟨ops', ⟨rfl, rfl, rfl⟩, rfl⟩, rfl⟩
        · exact .unchosen (by simp) hy hf
        · exact .chosen (by simp) hy hi

/-- From the listing on: it cannot be had, it is no listing, or the kits in it are offered. -/
inductive Listing (A : Answers) : List Event → List Operation → Except Stop Json → Prop
  | stopped {es : List Event} {x : Stop} : Exchange A .listKits failureNotice es (.error x) →
      Listing A es [] (.error x)
  | refused {es : List Event} {reply : Reply} : Exchange A .listKits failureNotice es (.ok reply) →
      reply.ok = false → Listing A es [.quit] (.ok .null)
  | unusable {es : List Event} {reply : Reply} {f : Fault} : Exchange A .listKits failureNotice es (.ok reply) →
      reply.ok = true → listedIds reply.value = .error f → Listing A es [] (.error (.fault f))
  | listed {es₁ es₂ : List Event} {ops : List Operation} {reply : Reply} {ids : List String} {r : Except Stop Json} :
      Exchange A .listKits failureNotice es₁ (.ok reply) → reply.ok = true → listedIds reply.value = .ok ids →
      Offering A ids es₂ ops r → Listing A (es₁ ++ es₂) ops r

/-! ## the steps -/

theorem course_listAndChoose {r : Except Stop Json} (h : listAndChoose.Course A es ops r) : Listing A es ops r := by
  unfold listAndChoose at h
  rcases course_call_bind_bind (fun _ _ _ _ => course_succeeded) h with
    ⟨x, hx, rfl, rfl⟩ | ⟨es₁, es₂, reply, hx, hk, rfl⟩
  · exact .stopped hx
  · cases hok : reply.ok with
    | false =>
      rw [hok, if_neg (by simp)] at hk
      obtain ⟨ops', ⟨rfl, rfl, rfl⟩, rfl⟩ := hk
      simpa using Listing.refused hx hok
    | true =>
      rw [hok, if_pos rfl] at hk
      cases hids : listedIds reply.value with
      | error f =>
        rw [hids] at hk
        obtain ⟨rfl, rfl, rfl⟩ := hk
        simpa using Listing.unusable hx hok hids
      | ok ids =>
        rw [hids] at hk
        exact .listed hx hok hids (course_chooseListed hk)

theorem course_authenticate {r : Except Stop Json} (h : authenticate.Course A es ops r) :
    ops = [] ∧ ∃ x, Exchange A .listKits failureNotice es x ∧ r = x.map fun _ => Json.null := by
  unfold authenticate at h
  refine course_call_bind (fun reply es ops r h => course_accept_bind (fun hk => ?_) (fun hk => ?_) h) h
  · rcases hk with hk | hk <;> simp [failureNotice, Reply.ok, hk, tell, pure_eq, notify_bind]
  · rfl

theorem course_view {id : Json} {r : Except Stop Json} (hid : id.isNull = false) (h : (view id).Course A es ops r) :
    ops = [] ∧ ∃ x, Exchange A (.getKit id) (fun reply => some (.showKit reply)) es x ∧ r = x.map fun _ => id := by
  rw [view, hid, if_neg (by simp)] at h
  exact course_shown h (fun _ => rfl) fun _ => rfl

theorem course_delete {id : Json} {r : Except Stop Json} (hid : id.isNull = false)
    (h : (delete id).Course A es ops r) :
    ops = [] ∧ ∃ x, Exchange A (.deleteKit id) (fun reply => some (.showDeleted reply)) es x ∧
      r = x.map fun _ => Json.null := by
  rw [delete, hid, if_neg (by simp)] at h
  exact course_shown h (fun _ => rfl) fun _ => rfl

/-- The call that a save makes of collected fields. -/
def saveOf (fields : Fields) : Call := .saveKit (Entries.erase idField fields) ((Json.object fields).field idField)

theorem course_save {value : Json} {fields : Fields} {r : Except Stop Json} (hv : fieldsOf value = .ok fields)
    (h : (save value).Course A es ops r) :
    ops = [] ∧ ∃ x, Exchange A (saveOf fields) (fun reply => some (.showKit reply)) es x ∧
      r = x.map fun _ => (Json.object fields).field idField := by
  unfold save at h
  rw [hv] at h
  exact course_shown h (fun _ => rfl) fun _ => rfl

theorem course_chooseOperation {r : Except Stop Json} (h : chooseOperation.Course A es ops r) :
    (∃ f, A (.chooseOperation mainMenu) (.error f) ∧ es = [⟨.chooseOperation mainMenu, none⟩] ∧ ops = [] ∧
      r = .error (.fault f)) ∨
    ∃ i, A (.chooseOperation mainMenu) (.ok i) ∧ es = [⟨.chooseOperation mainMenu, some i⟩] ∧
      ops = [mainMenu.value i] ∧ r = .ok .null := by
  rcases h with h | ⟨i, es', hi, ⟨ops', ⟨rfl, rfl, rfl⟩, rfl⟩, rfl⟩
  · exact .inl h
  · exact .inr ⟨i, hi, rfl, rfl, rfl⟩

/-- What the answer to the action menu schedules. -/
def follow (action : Operation) : List Operation :=
  if action = .view then [.view, .afterView] else [action]

theorem course_chooseAction {id : Json} {r : Except Stop Json} (h : (chooseAction id).Course A es ops r) :
    (∃ f, A (.chooseOperation actionMenu) (.error f) ∧ es = [⟨.chooseOperation actionMenu, none⟩] ∧ ops = [] ∧
      r = .error (.fault f)) ∨
    ∃ i, A (.chooseOperation actionMenu) (.ok i) ∧ es = [⟨.chooseOperation actionMenu, some i⟩] ∧
      ops = follow (actionMenu.value i) ∧ r = .ok id := by
  unfold chooseAction at h
  rw [perform_bind] at h
  rcases h with h | ⟨i, es', hi, hc, rfl⟩
  · exact .inl h
  · refine .inr ⟨i, hi, ?_⟩
    dsimp only at hc
    cases ha : actionMenu.value i <;> rw [ha] at hc <;> obtain ⟨ops', ⟨rfl, rfl, rfl⟩, rfl⟩ := hc <;>
      exact ⟨rfl, rfl, rfl⟩

def editQuestion : String := "Don't like what you see? Do you want to edit this kit?"

theorem course_afterView {id : Json} {r : Except Stop Json} (h : (afterView id).Course A es ops r) :
    (∃ f, A (.confirm editQuestion) (.error f) ∧ es = [⟨.confirm editQuestion, none⟩] ∧ ops = [] ∧
      r = .error (.fault f)) ∨
    ∃ edit : Bool, A (.confirm editQuestion) (.ok edit) ∧ es = [⟨.confirm editQuestion, some edit⟩] ∧
      ops = (if edit then [.collectFields] else []) ∧ r = .ok id := by
  unfold afterView at h
  rw [confirm_bind] at h
  rcases h with h | ⟨edit, es', he, hc, rfl⟩
  · exact .inl h
  · refine .inr ⟨edit, he, ?_⟩
    cases edit with
    | false =>
      obtain ⟨rfl, rfl, rfl⟩ := hc
      exact ⟨rfl, rfl, rfl⟩
    | true =>
      obtain ⟨ops', ⟨rfl, rfl, rfl⟩, rfl⟩ := hc
      exact ⟨rfl, rfl, rfl⟩

/-- What follows the fields of a kit: it is saved, and looked at again if it is no new one. -/
def afterFields (id : Json) : List Operation := if id.isNull then [.save] else [.save, .afterView]

theorem course_collectFields {id : Json} {r : Except Stop Json} (h : (collectFields id).Course A es ops r) :
    ops = afterFields id ∧
      ((∃ f, A .collectFields (.error f) ∧ es = [⟨.collectFields, none⟩] ∧ r = .error (.fault f)) ∨
      ∃ fields : Fields, A .collectFields (.ok fields) ∧ es = [⟨.collectFields, some fields⟩] ∧
        r = .ok (.object (Entries.put idField id fields))) := by
  obtain ⟨ops', ⟨f, hf, rfl, rfl, rfl⟩ | ⟨fields, es', hf, ⟨rfl, rfl, rfl⟩, rfl⟩, rfl⟩ := h
  · exact ⟨rfl, .inl ⟨f, hf, rfl, rfl⟩⟩
  · exact ⟨rfl, .inr ⟨fields, hf, rfl, rfl⟩⟩

end KitConsole.Flow
