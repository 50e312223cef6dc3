import KitConsole.Proofs.OfflineAnswers

/-!
# Failed calls of an offline store

* `Offline.Act`, `Offline.through` — a call, or failures switched on and off; the store after some acts.
* `Offline.Visit`, `Offline.visits` — a call with its answer and the store before and after it.
* `Visit.Contained` — a visit records its call and nothing else, and keeps the kits unless it is a save or a delete that
  succeeds.
* `visit_contained` — every visit is contained; `kits_through` — without a success, the kits are the same after all acts.
* `visits_contained` — both, for any sequence of acts.
-/

namespace KitConsole.Offline

variable {store : Offline} {call : Call} {r : Except Fault Reply}

/-! ## sequences of acts -/

/-- What is done to a store. -/
inductive Act
  | call (call : Call)
  | switch (flags : Flags)

/-- The call of an act that is one. -/
def Act.call? : Act → Option Call
  | .call c => some c
  | .switch _ => none

def act (store : Offline) : Act → Offline
  | .call c => (store.answer c).2
  | .switch flags => { store with flags }

/-- The store after the acts. -/
def through (store : Offline) (acts : List Act) : Offline := acts.foldl act store

/-- A call with its answer, and the store before and after it. -/
structure Visit where
  before : Offline
  call : Call
  result : Except Fault Reply
  after : Offline

def visit (store : Offline) (call : Call) : Visit := ⟨store, call, (store.answer call).1, (store.answer call).2⟩

/-- The calls among the acts, each at the store that the acts before it leave. -/
def visits (store : Offline) : List Act → List Visit
  | [] => []
  | .call c :: acts => store.visit c :: visits (store.act (.call c)) acts
  | .switch flags :: acts => visits (store.act (.switch flags)) acts

/-! ## one visit -/

/-- The visit changes nothing but the list of calls, unless it is a save or a delete that succeeds. -/
structure Visit.Contained (v : Visit) : Prop where
  answered : v.before.answer v.call = (v.result, v.after)
  calls : v.after.calls = v.before.calls ++ [v.call]
  flags : v.after.flags = v.before.flags
  failed : (∀ reply, v.result = .ok reply → reply.ok = false) → v.after.kits = v.before.kits
  listKits : v.call = .listKits → v.after.kits = v.before.kits
  getKit : ∀ id, v.call = .getKit id → v.after.kits = v.before.kits
  rejected : v.before.flags.authError = true → v.result = .ok (.unauthorized v.call.expected unauthorizedText)

/-- An answer that is no success tells of no change. -/
theorem idle_of_failed (h : ∀ reply, r = .ok reply → reply.ok = false) : Idle call r := by
  cases r with
  | error f => cases call <;> trivial
  | ok reply =>
    have hreply : reply.ok = false := h reply rfl
    cases call with
    | listKits => trivial
    | getKit id => trivial
    | saveKit fields id => exact hreply
    | deleteKit id => exact hreply

theorem kits_of_idle (h : Idle call (store.answer call).1) : (store.answer call).2.kits = store.kits :=
  (does_answer store call).eq_of_idle h

theorem answer_of_authError (h : store.flags.authError = true) (call : Call) :
    store.answer call = (.ok (.unauthorized call.expected unauthorizedText), store.heard call) := by
  unfold answer respond
  rw [if_pos (by exact h)]
  rfl

/-- **The effects of every call are contained**, whatever failures are switched on. -/
theorem visit_contained (store : Offline) (call : Call) : (store.visit call).Contained := by
  have hframed := answer_framed store call
  refine ⟨rfl, hframed.calls, hframed.flags, ?failed, ?listKits, ?getKit, ?rejected⟩
  case failed =>
    intro hfailed
    exact kits_of_idle (idle_of_failed hfailed)
  case listKits =>
    rintro rfl
    exact kits_of_idle trivial
  case getKit =>
    rintro id rfl
    exact kits_of_idle trivial
  case rejected =>
    intro hauth
    exact congrArg Prod.fst (answer_of_authError hauth call)

/-! ## all visits -/

theorem contained_of_mem (store : Offline) (acts : List Act) : ∀ v ∈ store.visits acts, v.Contained := by
  induction acts generalizing store with
  | nil => simp [visits]
  | cons a acts ih =>
    cases a with
    | call c => exact List.forall_mem_cons.2 ⟨visit_contained store c, ih _⟩
    | switch flags => exact ih _

theorem map_call_visits (store : Offline) (acts : List Act) :
    (store.visits acts).map (·.call) = acts.filterMap Act.call? := by
  induction acts generalizing store with
  | nil => rfl
  | cons a acts ih =>
    cases a with
    | call c => exact congrArg (c :: ·) (ih _)
    | switch flags => exact ih _

theorem calls_through (store : Offline) (acts : List Act) :
    (store.through acts).calls = store.calls ++ acts.filterMap Act.call? := by
  induction acts generalizing store with
  | nil => exact (List.append_nil _).symm
  | cons a acts ih =>
    cases a with
    | call c =>
      have hcalls : (store.answer c).2.calls = store.calls ++ [c] := (answer_framed store c).calls
      calc ((store.answer c).2.through acts).calls
          = (store.answer c).2.calls ++ acts.filterMap Act.call? := ih _
        _ = store.calls ++ c :: acts.filterMap Act.call? := by rw [hcalls, List.append_assoc, List.singleton_append]
    | switch flags => exact ih _

/-- Where no save and no delete succeeds, the kits are the same after all acts. -/
theorem kits_through (acts : List Act) (h : ∀ v ∈ store.visits acts, Idle v.call v.result) :
    (store.through acts).kits = store.kits := by
  induction acts generalizing store with
  | nil => rfl
  | cons a acts ih =>
    cases a with
    | call c =>
      obtain ⟨hc, hacts⟩ := List.forall_mem_cons.1 h
      exact (ih hacts).trans (kits_of_idle hc)
    | switch flags => exact (ih h).trans rfl

/-- **Failed calls change nothing.**  In any sequence of calls and switched failures, from any store, each call is recorded
once and its effects are contained, and the kits are the same at the end unless a save or a delete succeeds. -/
theorem visits_contained (store : Offline) (acts : List Act) :
    (∀ v ∈ store.visits acts, v.Contained) ∧
      (store.visits acts).map (·.call) = acts.filterMap Act.call? ∧
      (store.through acts).calls = store.calls ++ acts.filterMap Act.call? ∧
      ((∀ v ∈ store.visits acts, Idle v.call v.result) → (store.through acts).kits = store.kits) :=
  ⟨contained_of_mem store acts, map_call_visits store acts, calls_through store acts, kits_through acts⟩

/-- Refused and unusable fields, an unknown kit, ids that cannot be looked up, and calls that are rejected altogether. -/
def failing : List Act :=
  [.switch { badRequestError := true }, .call (.saveKit [("name", .string "New")] (.string "abc1def")), .switch {},
    .call (.saveKit [("domains", .bool true)] (.string "abc1def")), .call (.deleteKit (.string "none")),
    .call (.getKit (.list [])), .switch { authError := true }, .call (.deleteKit (.string "abc1def"))]

theorem visits_contained_failing :
    (∀ v ∈ (withExampleKit {}).visits failing, Idle v.call v.result) ∧
      ((withExampleKit {}).through failing).kits = [("abc1def", exampleKit)] := by
  have hidle : ∀ v ∈ (withExampleKit {}).visits failing, Idle v.call v.result := by decide +kernel
  exact ⟨hidle, (visits_contained (withExampleKit {}) failing).2.2.2 hidle⟩

end KitConsole.Offline
