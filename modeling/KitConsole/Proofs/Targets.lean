import Mathlib.Data.List.Forall2
import KitConsole.Proofs.Stage

/-!
# Which kit a session acts on

* `calls`, `changes`, `choices` — the calls of a record, the ones among them that save or delete, and the kits chosen.
* `Makes k op cs` — the calls that an operation makes when `k` is the kit chosen; `Grouped k` — the calls of a record
  are those of its operations, one after the other.
* `Changes k` — nothing is changed, a kit is created, or `k` is deleted or saved, any number of times.
* `run_targets` — every run, however it ends, keeps to the kit that was chosen in it.
-/

namespace KitConsole

/-! ## what a record tells -/

def Event.call? (e : Event) : Option Call :=
  match e.effect with
  | .call c => some c
  | _ => none

/-- The kit that was chosen, where the event is the choice of one. -/
def Event.choice? : Event → Option String
  | ⟨.chooseKit m, some i⟩ => some (m.value i)
  | _ => none

def Operation.changing : Operation → Bool
  | .save | .delete => true
  | _ => false

/-- The operation that makes a call. -/
def Call.changedBy? : Call → Option Operation
  | .saveKit _ _ => some .save
  | .deleteKit _ => some .delete
  | _ => none

namespace Session

open KitConsole.Flow

variable {ω : Type} {A : Answers}

def calls (es : List Event) : List Call := es.filterMap Event.call?

/-- The calls that save or delete. -/
def changes (es : List Event) : List Call := (calls es).filter (·.changedBy?.isSome)

def choices (es : List Event) : List String := es.filterMap Event.choice?

/-- The events hold the calls `cs` and the choices `ids`, and nobody is told that no kit is selected. -/
structure Shows (es : List Event) (cs : List Call) (ids : List String) : Prop where
  calls : Session.calls es = cs
  choices : Session.choices es = ids
  selected : ∀ e ∈ es, e.effect ≠ .notify noKitSelected

theorem Shows.nil : Shows [] [] [] := ⟨rfl, rfl, by simp⟩

theorem Shows.append {es es' : List Event} {cs cs' : List Call} {ids ids' : List String} (h : Shows es cs ids)
    (h' : Shows es' cs' ids') : Shows (es ++ es') (cs ++ cs') (ids ++ ids') where
  calls := by rw [Session.calls, List.filterMap_append]; exact congrArg₂ _ h.calls h'.calls
  choices := by rw [Session.choices, List.filterMap_append]; exact congrArg₂ _ h.choices h'.choices
  selected := by
    intro e he
    rcases List.mem_append.1 he with he | he
    · exact h.selected e he
    · exact h'.selected e he

theorem Shows.single (e : Event) (he : e.effect ≠ .notify noKitSelected) :
    Shows [e] e.call?.toList e.choice?.toList where
  calls := by cases h : e.call? <;> simp [Session.calls, h]
  choices := by cases h : e.choice? <;> simp [Session.choices, h]
  selected := by simpa using he

theorem Shows.choose {es : List Event} {cs : List Call} (h : Shows es cs []) (m : Menu String)
    (i : Option (Fin m.labels.length)) : Shows (es ++ [⟨.chooseKit m, i⟩]) cs (i.map m.value).toList := by
  rw [← List.append_nil cs, ← List.nil_append (i.map m.value).toList]
  cases i with
  | none => exact h.append (.single ⟨.chooseKit m, none⟩ (by simp))
  | some i => exact h.append (.single ⟨.chooseKit m, some i⟩ (by simp))

/-! ## the calls of the steps -/

section Steps

variable {shown : Reply → Option Notice} (hshown : ∀ reply, shown reply ≠ some noKitSelected)
include hshown

theorem reaction_ne (reply : Reply) : reaction shown reply ≠ some noKitSelected := by
  unfold reaction
  split
  · simp [noKitSelected]
  · exact hshown reply

theorem shows_of_exchange {c : Call} {es : List Event} {x : Except Stop Reply} (h : Exchange A c shown es x) :
    Shows es [c] [] := by
  cases h with
  | fault _ => exact .single _ (by simp)
  | @answered reply es x _ hr =>
    have hes : Shows es [] [] := by
      cases hr with
      | rejected _ => exact .nil
      | told _ ht =>
        have hne := reaction_ne hshown reply
        generalize reaction shown reply = n at ht hne
        cases ht with
        | silent => exact .nil
        | heard _ => exact .single _ (by simpa using hne)
        | fault _ => exact .single _ (by simpa using hne)
    exact (Shows.single ⟨.call c, some reply⟩ (by simp)).append hes

end Steps

theorem failureNotice_ne (reply : Reply) : failureNotice reply ≠ some noKitSelected := by
  unfold failureNotice
  split <;> simp [noKitSelected]

/-- The calls that fetch kits. -/
def fetches (ids : List String) : List Call := ids.map fun id => .getKit (.string id)

theorem shows_of_fetching {ids : List String} {es : List Event} {x : Except Stop (Option (List Reply))}
    (h : Fetching A ids es x) : ∃ ids', Shows es (fetches ids') [] := by
  induction h with
  | nil => exact ⟨[], .nil⟩
  | @stopped id _ _ _ h => exact ⟨[id], shows_of_exchange failureNotice_ne h⟩
  | @refused id _ _ _ h _ => exact ⟨[id], shows_of_exchange failureNotice_ne h⟩
  | @fetched id _ _ _ _ _ h _ _ ih =>
    obtain ⟨ids', hids'⟩ := ih
    exact ⟨id :: ids', (shows_of_exchange failureNotice_ne h).append hids'⟩

/-- The kit that the listing ends with, if one was chosen. -/
def chosen : Except Stop Json → List String
  | .ok (.string id) => [id]
  | _ => []

theorem shows_of_offering {ids : List String} {es : List Event} {ops : List Operation} {r : Except Stop Json}
    (h : Offering A ids es ops r) : ∃ ids', Shows es (fetches ids') (chosen r) := by
  cases h with
  | unasked _ => exact ⟨[], .single _ (by simp)⟩
  | asked _ => exact ⟨[], .single _ (by simp)⟩
  | stopped _ h => exact shows_of_fetching h
  | refused _ h => exact shows_of_fetching h
  | unchosen _ h _ =>
    obtain ⟨ids', hids'⟩ := shows_of_fetching h
    exact ⟨ids', hids'.choose _ none⟩
  | chosen _ h _ =>
    obtain ⟨ids', hids'⟩ := shows_of_fetching h
    exact ⟨ids', hids'.choose _ (some _)⟩

theorem shows_of_listing {es : List Event} {ops : List Operation} {r : Except Stop Json} (h : Listing A es ops r) :
    ∃ ids, Shows es (.listKits :: fetches ids) (chosen r) := by
  cases h with
  | stopped h => exact ⟨[], shows_of_exchange failureNotice_ne h⟩
  | refused h _ => exact ⟨[], shows_of_exchange failureNotice_ne h⟩
  | unusable h _ _ => exact ⟨[], shows_of_exchange failureNotice_ne h⟩
  | listed h _ _ ho =>
    obtain ⟨ids', hids'⟩ := shows_of_offering ho
    exact ⟨ids', (shows_of_exchange failureNotice_ne h).append hids'⟩

/-! ## the calls of the operations -/

/-- The id that a kit is saved under; a new kit has none. -/
def idOf : Option String → Json
  | none => .null
  | some id => .string id

/-- The calls that an operation makes when `k` is the kit chosen. -/
inductive Makes (k : Option String) : Operation → List Call → Prop
  | authenticate : Makes k .authenticate [.listKits]
  | list (ids : List String) : Makes k .listAndChoose (.listKits :: fetches ids)
  | view {id : String} : k = some id → Makes k .view [.getKit (.string id)]
  | save (fields : Fields) : Makes k .save [.saveKit fields (idOf k)]
  | delete {id : String} : k = some id → Makes k .delete [.deleteKit (.string id)]
  | silent {op : Operation} : op ∈ [.mainMenu, .chooseAction, .afterView, .collectFields, .quit] → Makes k op []

/-- The calls of the record are those of its operations, in their order. -/
def Grouped (k : Option String) (ops : List Operation) (es : List Event) : Prop :=
  ∃ groups, List.Forall₂ (Makes k) ops groups ∧ calls es = groups.flatten

theorem Grouped.snoc {k : Option String} {ops : List Operation} {es es' : List Event} {op : Operation}
    {cs : List Call} {ids : List String} (h : Grouped k ops es) (hs : Shows es' cs ids) (hm : Makes k op cs) :
    Grouped k (ops ++ [op]) (es ++ es') := by
  obtain ⟨groups, hgroups, hcalls⟩ := h
  refine ⟨groups ++ [cs], List.rel_append hgroups (.cons hm .nil), ?_⟩
  rw [calls, List.filterMap_append, List.flatten_append, List.flatten_singleton]
  exact congrArg₂ _ hcalls hs.calls

theorem fetches_changedBy (ids : List String) : (fetches ids).filterMap Call.changedBy? = [] := by
  induction ids with
  | nil => rfl
  | cons id ids ih => exact ih

/-- The calls that change something are made by the operations that do, one by each. -/
theorem Makes.changedBy {k : Option String} {op : Operation} {cs : List Call} (h : Makes k op cs) :
    cs.filterMap Call.changedBy? = [op].filter Operation.changing := by
  cases h with
  | list ids => exact fetches_changedBy ids
  | silent h =>
    simp only [List.mem_cons, List.not_mem_nil, or_false] at h
    rcases h with rfl | rfl | rfl | rfl | rfl <;> rfl
  | _ => rfl

theorem Makes.unchanging {k : Option String} {op : Operation} {cs : List Call} (h : Makes k op cs)
    (hop : op.changing = false) : cs.filter (·.changedBy?.isSome) = [] := by
  have hcs : cs.filterMap Call.changedBy? = [] := by rw [h.changedBy]; simp [hop]
  refine List.filter_eq_nil_iff.2 fun c hc => ?_
  rw [List.filterMap_eq_nil_iff.1 hcs c hc]
  simp

theorem Grouped.changedBy {k : Option String} {ops : List Operation} {es : List Event} (h : Grouped k ops es) :
    (calls es).filterMap Call.changedBy? = ops.filter Operation.changing := by
  obtain ⟨groups, hgroups, hcalls⟩ := h
  rw [hcalls]
  clear hcalls
  induction hgroups with
  | nil => rfl
  | @cons op cs ops groups hm _ ih =>
    rw [List.flatten_cons, List.filterMap_append, ih, hm.changedBy, ← List.filter_append, List.singleton_append]

/-- An operation that changes nothing makes the same calls whatever kit is chosen afterwards. -/
theorem Makes.of_unchanged {op : Operation} {cs : List Call} (h : Makes none op cs)
    (hcs : cs.filter (·.changedBy?.isSome) = []) (k : Option String) : Makes k op cs := by
  cases h with
  | authenticate => exact .authenticate
  | list ids => exact .list ids
  | view h => simp at h
  | save fields => simp [Call.changedBy?] at hcs
  | delete h => simp at h
  | silent h => exact .silent h

theorem Grouped.of_unchanged {ops : List Operation} {es : List Event} (h : Grouped none ops es)
    (hes : changes es = []) (k : Option String) : Grouped k ops es := by
  obtain ⟨groups, hgroups, hcalls⟩ := h
  refine ⟨groups, ?_, hcalls⟩
  rw [changes, hcalls] at hes
  clear hcalls
  induction hgroups with
  | nil => exact .nil
  | cons hm _ ih =>
    rw [List.flatten_cons, List.filter_append, List.append_eq_nil_iff] at hes
    exact .cons (hm.of_unchanged hes.1 k) (ih hes.2)

/-! ## what has been changed -/

/-- The calls save the kit `id`, any number of times. -/
def Saves (id : String) (cs : List Call) : Prop := ∀ c ∈ cs, ∃ fields, c = .saveKit fields (.string id)

theorem Saves.snoc {id : String} {cs : List Call} (h : Saves id cs) (fields : Fields) :
    Saves id (cs ++ [.saveKit fields (.string id)]) := by
  intro c hc
  rcases List.mem_append.1 hc with hc | hc
  · exact h c hc
  · exact ⟨fields, List.mem_singleton.1 hc⟩

/-- Nothing is changed, a new kit is saved, or the chosen one is deleted or saved. -/
inductive Changes : Option String → List Call → Prop
  | nothing {k : Option String} : Changes k []
  | created (fields : Fields) : Changes none [.saveKit fields .null]
  | deleted (id : String) : Changes (some id) [.deleteKit (.string id)]
  | saved {id : String} {cs : List Call} : cs ≠ [] → Saves id cs → Changes (some id) cs

theorem Saves.changes {id : String} {cs : List Call} (h : Saves id cs) : Changes (some id) cs := by
  by_cases hcs : cs = []
  · exact hcs ▸ .nothing
  · exact .saved hcs h

/-- What has been changed up to a stage, and the kit that was chosen. -/
def Stage.Changed (σ : Stage) (k : Option String) (cs : List Call) : Prop :=
  match σ with
  | .opening | .menu | .listing | .creating | .created => k = none ∧ cs = []
  | .acting id | .viewing id | .deleting id => k = some id ∧ cs = []
  | .viewed id | .editing id | .saving id => k = some id ∧ Saves id cs
  | .closing => Changes k cs

theorem Stage.Changed.changes {σ : Stage} {k : Option String} {cs : List Call} (h : σ.Changed k cs) :
    Changes k cs := by
  unfold Stage.Changed at h
  split at h
  all_goals first
    | exact h
    | exact h.1 ▸ h.2.changes
    | exact h.2 ▸ .nothing

/-- The record up to a stage, with the kit that was chosen. -/
structure Ledger (σ : Stage) (ops : List Operation) (es : List Event) (k : Option String) : Prop where
  choices : choices es = k.toList
  grouped : Grouped k ops es
  changed : σ.Changed k (changes es)
  selected : ∀ e ∈ es, e.effect ≠ .notify noKitSelected

section Ledger

variable {σ τ : Stage} {op : Operation} {ops : List Operation} {es es' : List Event} {cs : List Call}
  {ids : List String} {k k' : Option String}

theorem Ledger.extend (h : Ledger σ ops es k) (hk : k.toList ++ ids = k'.toList) (hg : Grouped k' ops es)
    (hs : Shows es' cs ids) (hm : Makes k' op cs)
    (hτ : τ.Changed k' (changes es ++ cs.filter (·.changedBy?.isSome))) :
    Ledger τ (ops ++ [op]) (es ++ es') k' where
  choices := by
    rw [Session.choices, List.filterMap_append, ← hk]
    exact congrArg₂ _ h.choices hs.choices
  grouped := hg.snoc hs hm
  changed := by
    rw [changes, calls, List.filterMap_append, List.filter_append]
    rw [← hs.calls] at hτ
    exact hτ
  selected := by
    intro e he
    rcases List.mem_append.1 he with he | he
    · exact h.selected e he
    · exact hs.selected e he

theorem Ledger.change (h : Ledger σ ops es k) (hs : Shows es' cs []) (hm : Makes k op cs)
    (hτ : τ.Changed k (changes es ++ cs.filter (·.changedBy?.isSome))) : Ledger τ (ops ++ [op]) (es ++ es') k :=
  h.extend (List.append_nil _) h.grouped hs hm hτ

theorem Ledger.keep (h : Ledger σ ops es k) (hs : Shows es' cs []) (hm : Makes k op cs) (hop : op.changing = false)
    (hτ : τ.Changed k (changes es)) : Ledger τ (ops ++ [op]) (es ++ es') k :=
  h.change hs hm (by rw [hm.unchanging hop, List.append_nil]; exact hτ)

/-- Before a kit is chosen nothing has been changed, so that what was done can be counted to any kit. -/
theorem Ledger.choose {id : String} (h : Ledger .listing ops es k) (hs : Shows es' (.listKits :: fetches ids) [id]) :
    Ledger (.acting id) (ops ++ [.listAndChoose]) (es ++ es') (some id) := by
  obtain ⟨rfl, hes⟩ := h.changed
  have hm : Makes (some id) .listAndChoose (.listKits :: fetches ids) := .list ids
  refine h.extend rfl (h.grouped.of_unchanged hes _) hs hm ⟨rfl, ?_⟩
  rw [hm.unchanging rfl, List.append_nil, hes]

/-- **Every move keeps the ledger**, of the stage that it leads to or, if it is stopped, of some stage. -/
theorem Move.ledger {r : Except Stop Stage} (hm : Move A σ op es' r) (h : Ledger σ ops es k) :
    ∃ τ k', Ledger τ (ops ++ [op]) (es ++ es') k' ∧ ∀ υ, r = .ok υ → υ = τ := by
  have hch := h.changed
  cases hm with
  | authenticate hx =>
    exact ⟨.menu, k, h.keep (shows_of_exchange failureNotice_ne hx) .authenticate rfl hch,
      fun _ hυ => eq_of_map_eq_ok hυ.symm⟩
  | menuFault _ => exact ⟨.menu, k, h.keep (.single _ (by simp)) (.silent (by simp)) rfl hch, by simp⟩
  | menu i =>
    refine ⟨.ofMenu (mainMenu.value i), k, h.keep (.single _ (by simp)) (.silent (by simp)) rfl ?_, by simp⟩
    match i with
    | ⟨0, _⟩ => exact hch
    | ⟨1, _⟩ => exact hch
    | ⟨2, _⟩ => exact Stage.Changed.changes hch
  | listFault hl =>
    obtain ⟨ids, hs⟩ := shows_of_listing hl
    exact ⟨.listing, k, h.keep hs (.list ids) rfl hch, by simp⟩
  | unlisted hl =>
    obtain ⟨ids, hs⟩ := shows_of_listing hl
    exact ⟨.closing, k, h.keep hs (.list ids) rfl (Stage.Changed.changes hch), by simp⟩
  | createFirst hl =>
    obtain ⟨ids, hs⟩ := shows_of_listing hl
    exact ⟨.creating, k, h.keep hs (.list ids) rfl hch, by simp⟩
  | listed hl =>
    obtain ⟨ids, hs⟩ := shows_of_listing hl
    exact ⟨_, _, h.choose hs, by simp⟩
  | @actionFault id _ _ => exact ⟨.acting id, k, h.keep (.single _ (by simp)) (.silent (by simp)) rfl hch, by simp⟩
  | @action id i =>
    refine ⟨.ofAction id (actionMenu.value i), k, h.keep (.single _ (by simp)) (.silent (by simp)) rfl ?_, by simp⟩
    match i with
    | ⟨0, _⟩ => exact hch
    | ⟨1, _⟩ => exact ⟨hch.1, hch.2 ▸ by simp [Saves]⟩
    | ⟨2, _⟩ => exact hch
  | @view id _ _ hx =>
    refine ⟨.viewed id, k, h.keep (shows_of_exchange (by simp [noKitSelected]) hx) (.view hch.1) rfl ?_,
      fun _ hυ => eq_of_map_eq_ok hυ.symm⟩
    exact ⟨hch.1, hch.2 ▸ by simp [Saves]⟩
  | @editFault id _ _ => exact ⟨.viewed id, k, h.keep (.single _ (by simp)) (.silent (by simp)) rfl hch, by simp⟩
  | @edit id yes =>
    refine ⟨if yes then .editing id else .closing, k, h.keep (.single _ (by simp)) (.silent (by simp)) rfl ?_,
      by simp⟩
    cases yes with
    | false => exact Stage.Changed.changes hch
    | true => exact hch
  | fieldsFault _ _ => exact ⟨σ, k, h.keep (.single _ (by simp)) (.silent (by simp)) rfl hch, by simp⟩
  | @fields id _ => exact ⟨.saving id, k, h.keep (.single _ (by simp)) (.silent (by simp)) rfl hch, by simp⟩
  | newFields _ => exact ⟨.created, k, h.keep (.single _ (by simp)) (.silent (by simp)) rfl hch, by simp⟩
  | @save id fields _ _ hx =>
    obtain ⟨rfl, hsaves⟩ := hch
    exact ⟨.viewed id, some id, h.change (shows_of_exchange (by simp [noKitSelected]) hx) (.save fields)
      ⟨rfl, hsaves.snoc fields⟩, fun _ hυ => eq_of_map_eq_ok hυ.symm⟩
  | @create fields _ _ hx =>
    obtain ⟨rfl, hes⟩ := hch
    refine ⟨.closing, none, h.change (shows_of_exchange (by simp [noKitSelected]) hx) (.save fields) ?_,
      fun _ hυ => eq_of_map_eq_ok hυ.symm⟩
    rw [hes]
    exact .created fields
  | @delete id _ _ hx =>
    obtain ⟨rfl, hes⟩ := hch
    refine ⟨.closing, some id, h.change (shows_of_exchange (by simp [noKitSelected]) hx) (.delete rfl) ?_,
      fun _ hυ => eq_of_map_eq_ok hυ.symm⟩
    rw [hes]
    exact .deleted id

theorem Ledger.notice (h : Ledger σ ops es k) {n : Notice} (hn : n ≠ noKitSelected) (r : Option Unit) :
    Ledger σ ops (es ++ [⟨.notify n, r⟩]) k := by
  have hs : Shows [⟨.notify n, r⟩] [] [] := .single _ (by simpa using hn)
  have hcalls : calls (es ++ [⟨.notify n, r⟩]) = calls es := by
    rw [calls, List.filterMap_append]
    exact List.append_nil _
  refine ⟨?_, ?_, ?_, ?_⟩
  · rw [Session.choices, List.filterMap_append, ← h.choices]
    exact List.append_nil _
  · rw [Grouped, hcalls]
    exact h.grouped
  · rw [changes, hcalls]
    exact h.changed
  · intro e he
    rcases List.mem_append.1 he with he | he
    · exact h.selected e he
    · exact hs.selected e he

theorem Ledger.quit (h : Ledger .closing ops es k) (r : Option Unit) :
    Ledger .closing (ops ++ [.quit]) (es ++ [⟨.notify .goodbye, r⟩]) k :=
  h.keep (.single _ (by simp [noKitSelected])) (.silent (by simp)) rfl h.changed

end Ledger

/-! ## runs -/

/-- The session has acted on the chosen kit `k` alone; where none was chosen, on a new one or on none. -/
structure Targets (k : Option String) (s : Session ω) : Prop where
  choices : choices s.events = k.toList
  changes : Changes k (changes s.events)
  grouped : Grouped k s.operations s.events
  changedBy : (calls s.events).filterMap Call.changedBy? = s.operations.filter Operation.changing
  selected : ∀ e ∈ s.events, e.effect ≠ .notify noKitSelected

theorem Ledger.targets {σ : Stage} {s : Session ω} {k : Option String} (h : Ledger σ s.operations s.events k) :
    Targets k s :=
  ⟨h.choices, h.changed.changes, h.grouped, h.grouped.changedBy, h.selected⟩

/-- **Every run acts on the kit chosen in it**, whether it is finished, stopped or cut short. -/
theorem run_targets (c : Counterpart ω) (n : Nat) (w : ω) : ∃ k, Targets k (run c n { world := w }).2 := by
  have hstart : ∃ k, Ledger .opening [] [] k := ⟨none, rfl, ⟨[], .nil, rfl⟩, ⟨rfl, rfl⟩, by simp⟩
  have hwelcome : ∀ ops es, (∃ k, Ledger .menu ops es k) →
      ∃ k, Ledger .menu ops (es ++ [⟨.notify .welcome, some ()⟩]) k := by
    rintro ops es ⟨k, h⟩
    exact ⟨k, h.notice (by simp [noKitSelected]) _⟩
  have hmove : ∀ σ op es τ ops evs, (∃ k, Ledger σ ops evs k) → Move Answers.any σ op es (.ok τ) →
      ∃ k, Ledger τ (ops ++ [op]) (evs ++ es) k := by
    rintro σ op es τ ops evs ⟨k, h⟩ hm
    obtain ⟨τ', k', h', hτ⟩ := hm.ledger h
    exact ⟨k', hτ τ rfl ▸ h'⟩
  obtain ⟨-, h⟩ := run_outcome c.keeps_any hstart hwelcome hmove n (w := w) trivial
  -- whatever the outcome, the record is a ledger of some stage
  suffices ∃ σ k, Ledger σ (run c n { world := w }).2.operations (run c n { world := w }).2.events k by
    obtain ⟨σ, k, h⟩ := this
    exact ⟨k, h.targets⟩
  generalize (run c n { world := w }).1 = e, (run c n { world := w }).2.operations = ops,
    (run c n { world := w }).2.events = es at h ⊢
  cases h with
  | unwelcomed hL _ =>
    obtain ⟨k, h⟩ := hL
    exact ⟨_, k, h.notice (by simp [noKitSelected]) _⟩
  | stopped hL hm =>
    obtain ⟨k, h⟩ := hL
    obtain ⟨τ, k', h', -⟩ := hm.ledger h
    exact ⟨τ, k', h'⟩
  | unfinished hL =>
    obtain ⟨k, h⟩ := hL
    exact ⟨_, k, h⟩
  | unparted hL _ =>
    obtain ⟨k, h⟩ := hL
    exact ⟨_, k, h.quit _⟩
  | finished hL =>
    obtain ⟨k, h⟩ := hL
    exact ⟨_, k, h.quit _⟩

end Session

end KitConsole
