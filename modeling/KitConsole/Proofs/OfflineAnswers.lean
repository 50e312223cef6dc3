import KitConsole.Proofs.CollectedFields

/-!
# The answers of the offline store

* `Offline.heard` — the store once a call is recorded.
* `ListsDomains`, `saveInto_of_listsDomains` — fields whose domains are a list are saved without a fault.
* `fetched`, `removed`, `answer_getKit`, `answer_saveKit`, `answer_deleteKit` — unless all calls are rejected, calls with
  an id that can be looked up are answered.
* `Does`, `does_answer` — the kits that a call leaves, whatever failures are switched on: those that were there, one more,
  one in the place of another, or one less; `Does.eq_of_idle` — without a success, those that were there.
* `Framed`, `answer_framed` — a call switches no failure, is the only one to be recorded, and leaves the numbers for ids
  as they are.
-/

namespace KitConsole.Offline

variable {store : Offline} {fields : Fields} {id : String} {kit : Kit}

/-- The store once the call is recorded. -/
def heard (store : Offline) (call : Call) : Offline := { store with calls := store.calls ++ [call] }

/-- Without the rejection of all calls, a call gets its own answer. -/
theorem answer_eq (hauth : store.flags.authError = false) (call : Call) :
    store.answer call = match call with
      | .listKits => (.ok store.list, store.heard call)
      | .getKit id => (store.get id, store.heard call)
      | .saveKit fields id => (store.heard call).save fields id
      | .deleteKit id => (store.heard call).delete id := by
  unfold answer respond
  rw [if_neg (by simp [hauth])]
  cases call <;> rfl

theorem find?_of_none (h : Entries.get? id store.kits = none) : store.find? (.string id) = .ok none := by
  simp [find?, keyOf, Except.map, h]

theorem find?_of_some (h : Entries.get? id store.kits = some kit) : store.find? (.string id) = .ok (some (id, kit)) := by
  simp [find?, keyOf, Except.map, h]

/-! ## saving -/

theorem id_of_merge {kit' : Kit} (h : merge kit fields = .ok kit') : kit'.id = kit.id := by
  unfold merge at h
  dsimp only at h
  generalize (if (fieldOf fields "domains").truthy then itemsOf (fieldOf fields "domains") else .ok kit.domains) = x at h
  cases x with
  | error f => simp [Except.map] at h
  | ok domains => rw [← Except.ok.inj h]

theorem saveInto_cases (store : Offline) (kit : Kit) (fields : Fields) :
    (∃ f, store.saveInto kit fields = (.error f, store)) ∨
      ∃ kit', kit'.id = kit.id ∧ store.saveInto kit fields = (.ok (kitReply kit'), store.put kit') := by
  unfold saveInto
  cases hmerge : merge kit fields with
  | error f => exact .inl ⟨f, rfl⟩
  | ok kit' => exact .inr ⟨kit', id_of_merge hmerge, rfl⟩

/-- The domains are a list, if they are given. -/
def ListsDomains (fields : Fields) : Prop :=
  fieldOf fields "domains" = .null ∨ ∃ domains, fieldOf fields "domains" = .list domains

theorem listsDomains_fieldsFrom (name domains : String) (families : List String) :
    ListsDomains (Console.fieldsFrom name domains families) := by
  unfold ListsDomains
  rw [fieldOf_domains]
  split
  · exact .inl rfl
  · exact .inr ⟨_, rfl⟩

theorem saveInto_of_listsDomains (h : ListsDomains fields) (store : Offline) (kit : Kit) :
    ∃ kit', kit'.id = kit.id ∧ store.saveInto kit fields = (.ok (kitReply kit'), store.put kit') := by
  rcases saveInto_cases store kit fields with ⟨f, hf⟩ | hsaved
  · exfalso
    unfold saveInto merge at hf
    rcases h with h | ⟨domains, h⟩
    · simp [h, Json.truthy, Except.map] at hf
    · cases domains <;> simp [h, Json.truthy, itemsOf, Except.map] at hf
  · exact hsaved

theorem create_of_listsDomains (h : ListsDomains fields) (store : Offline) :
    ∃ kit, kit.id = store.newId ∧ (store.create fields).1 = .ok (kitReply kit) := by
  obtain ⟨kit, hid, hkit⟩ := saveInto_of_listsDomains h { store with drawn := store.drawn + 1 } store.newKit
  exact ⟨kit, hid, congrArg Prod.fst hkit⟩

theorem update_of_listsDomains (h : ListsDomains fields) {old : Kit} (hold : Entries.get? id store.kits = some old) :
    ∃ kit, kit.id = old.id ∧ (store.update fields (.string id)).1 = .ok (kitReply kit) := by
  obtain ⟨kit, hid, hkit⟩ := saveInto_of_listsDomains h store old
  refine ⟨kit, hid, ?_⟩
  rw [update, find?_of_some hold]
  exact congrArg Prod.fst hkit

theorem update_of_not_mem (h : id ∉ store.kits.keys) (fields : Fields) :
    store.update fields (.string id) = (.ok (.failure "kit" notFoundText), store) := by
  rw [update, find?_of_none (Entries.get?_eq_none_iff.2 h)]

/-! ## calls that are answered -/

/-- The reply to a call for a kit. -/
def fetched (store : Offline) (id : String) : Reply :=
  match Entries.get? id store.kits with
  | some kit => if store.flags.notFoundError then .failure "kit" notFoundText else kitReply kit
  | none => .failure "kit" notFoundText

theorem kind_fetched_ne_unauthorized (store : Offline) (id : String) : (store.fetched id).kind ≠ .unauthorized := by
  unfold fetched
  split
  · split <;> simp [Reply.failure, kitReply, Reply.success]
  · simp [Reply.failure]

def deletedReply : Reply := .success "ok" [("ok", .string "true")]

/-- The reply to a delete. -/
def removed (store : Offline) (id : String) : Reply :=
  if store.flags.notFoundError then .failure "ok" notFoundText
  else if id ∈ store.kits.keys then deletedReply
  else .failure "ok" notFoundText

theorem kind_removed_ne_unauthorized (store : Offline) (id : String) : (store.removed id).kind ≠ .unauthorized := by
  unfold removed
  split
  · simp [Reply.failure]
  · split <;> simp [Reply.failure, deletedReply, Reply.success]

section Answered

variable (hauth : store.flags.authError = false)
include hauth

theorem answer_getKit (id : String) :
    store.answer (.getKit (.string id)) = (.ok (store.fetched id), store.heard (.getKit (.string id))) := by
  rw [answer_eq hauth]
  dsimp only
  unfold get fetched
  cases hkit : Entries.get? id store.kits with
  | none =>
    rw [find?_of_none hkit]
    rfl
  | some kit =>
    rw [find?_of_some hkit]
    rfl

/-- Fields are saved or refused, under an id that can be looked up or as a new kit. -/
theorem answer_saveKit (h : ListsDomains fields) {id : Json} {key : Option String} (hid : keyOf id = .ok key) :
    ∃ reply store', store.answer (.saveKit fields id) = (.ok reply, store') ∧ reply.kind ≠ .unauthorized ∧
      store'.flags = store.flags := by
  have hsaved : ∀ (t : Offline) (kit : Kit), t.flags = store.flags → ∃ reply store',
      t.saveInto kit fields = (.ok reply, store') ∧ reply.kind ≠ .unauthorized ∧ store'.flags = store.flags := by
    intro t kit ht
    obtain ⟨kit', -, hkit'⟩ := saveInto_of_listsDomains h t kit
    exact ⟨_, _, hkit', by simp [kitReply, Reply.success], ht⟩
  have hrefused : ∀ text, (Reply.failure "kit" text).kind ≠ .unauthorized := by
    simp [Reply.failure]
  rw [answer_eq hauth]
  simp only [save]
  split
  · exact ⟨_, _, rfl, hrefused _, rfl⟩
  · split
    · exact hsaved _ _ rfl
    · simp only [update, find?, hid, Except.map]
      rcases key.bind fun k => (Entries.get? k (store.heard (.saveKit fields id)).kits).map fun kit => (k, kit) with
        _ | ⟨k, kit⟩
      · exact ⟨_, _, rfl, hrefused _, rfl⟩
      · exact hsaved _ kit rfl

theorem answer_saveKit_null (hbad : store.flags.badRequestError = false) (fields : Fields) :
    store.answer (.saveKit fields .null) = (store.heard (.saveKit fields .null)).create fields := by
  rw [answer_eq hauth]
  simp [save, heard, hbad, Json.isNull]

theorem answer_saveKit_string (hbad : store.flags.badRequestError = false) (fields : Fields) (id : String) :
    store.answer (.saveKit fields (.string id)) =
      (store.heard (.saveKit fields (.string id))).update fields (.string id) := by
  rw [answer_eq hauth]
  simp [save, heard, hbad, Json.isNull]

theorem answer_deleteKit (id : String) : (store.answer (.deleteKit (.string id))).1 = .ok (store.removed id) := by
  rw [answer_eq hauth]
  dsimp only
  unfold delete removed
  by_cases hlost : store.flags.notFoundError
  · rw [if_pos (by exact hlost), if_pos hlost]
  · rw [if_neg (by exact hlost), if_neg hlost]
    by_cases hid : id ∈ store.kits.keys
    · obtain ⟨kit, hkit⟩ := Entries.exists_get? hid
      rw [find?_of_some (by exact hkit), if_pos hid]
      rfl
    · rw [find?_of_none (by exact Entries.get?_eq_none_iff.2 hid), if_neg hid]

end Answered

/-! ## what a call does to the kits -/

/-- The answer tells of no change: it is about the kits as they are, or it is no success. -/
def Idle : Call → Except Fault Reply → Prop
  | .saveKit _ _, .ok reply => reply.ok = false
  | .deleteKit _, .ok reply => reply.ok = false
  | _, _ => True

instance decidableIdle : (call : Call) → (r : Except Fault Reply) → Decidable (Idle call r)
  | .saveKit _ _, .ok reply => inferInstanceAs (Decidable (reply.ok = false))
  | .deleteKit _, .ok reply => inferInstanceAs (Decidable (reply.ok = false))
  | .saveKit _ _, .error _ => isTrue trivial
  | .deleteKit _, .error _ => isTrue trivial
  | .listKits, _ => isTrue trivial
  | .getKit _, _ => isTrue trivial

/-- A call with its answer, and the kits that it leaves where there were `kits`; `newId` is the next id for a new kit. -/
inductive Does (newId : String) (kits : Entries Kit) : Call → Except Fault Reply → Entries Kit → Prop
  | idle {call : Call} {r : Except Fault Reply} : Idle call r → Does newId kits call r kits
  | created {fields : Fields} {kit : Kit} : kit.id = newId →
      Does newId kits (.saveKit fields .null) (.ok (kitReply kit)) (Entries.put kit.id kit kits)
  | updated {fields : Fields} {id : String} {old kit : Kit} : Entries.get? id kits = some old → kit.id = old.id →
      Does newId kits (.saveKit fields (.string id)) (.ok (kitReply kit)) (Entries.put kit.id kit kits)
  | deleted {id : String} : id ∈ kits.keys →
      Does newId kits (.deleteKit (.string id)) (.ok deletedReply) (Entries.erase id kits)

theorem does_save (store : Offline) (fields : Fields) (id : Json) : Does store.newId store.kits
    (.saveKit fields id) (store.save fields id).1 (store.save fields id).2.kits := by
  unfold save
  split
  · exact .idle rfl
  · cases id with
    | null =>
      simp only [Json.isNull, if_true, create]
      rcases saveInto_cases { store with drawn := store.drawn + 1 } store.newKit fields with ⟨f, hf⟩ | ⟨kit, hid, hkit⟩
      · rw [hf]
        exact .idle trivial
      · rw [hkit]
        exact .created hid
    | string id =>
      rw [if_neg (by simp [Json.isNull])]
      unfold update
      cases hold : Entries.get? id store.kits with
      | none =>
        rw [find?_of_none hold]
        exact .idle rfl
      | some old =>
        rw [find?_of_some hold]
        rcases saveInto_cases store old fields with ⟨f, hf⟩ | ⟨kit, hid, hkit⟩
        · simp only [hf]
          exact .idle trivial
        · simp only [hkit]
          exact .updated hold hid
    | list _ => exact .idle trivial
    | object _ => exact .idle trivial
    | _ => exact .idle rfl

theorem does_delete (store : Offline) (id : Json) : Does store.newId store.kits
    (.deleteKit id) (store.delete id).1 (store.delete id).2.kits := by
  unfold delete
  split
  · exact .idle rfl
  · cases id with
    | string id =>
      cases hkit : Entries.get? id store.kits with
      | none =>
        rw [find?_of_none hkit]
        exact .idle rfl
      | some kit =>
        rw [find?_of_some hkit]
        exact .deleted ((Entries.get?_isSome_iff id _).1 (by simp [hkit]))
    | list _ => exact .idle trivial
    | object _ => exact .idle trivial
    | _ => exact .idle rfl

/-- **Kits change only in a save or a delete that succeeds.** -/
theorem does_answer (store : Offline) (call : Call) : Does store.newId store.kits call
    (store.answer call).1 (store.answer call).2.kits := by
  unfold answer respond
  split
  · cases call <;> exact .idle (by simp [Idle, Reply.unauthorized, Reply.ok])
  · cases call with
    | listKits => exact .idle trivial
    | getKit id => exact .idle trivial
    | saveKit fields id => exact does_save (store.heard (.saveKit fields id)) fields id
    | deleteKit id => exact does_delete (store.heard (.deleteKit id)) id

/-- Kits that change have been told of. -/
theorem Does.eq_of_idle {newId : String} {kits kits' : Entries Kit} {call : Call} {r : Except Fault Reply}
    (h : Does newId kits call r kits') (hidle : Idle call r) : kits' = kits := by
  cases h with
  | idle _ => rfl
  | created _ => exact nomatch hidle
  | updated _ _ => exact nomatch hidle
  | deleted _ => exact nomatch hidle

/-! ## what a call leaves alone -/

/-- The failures that are switched on, the calls made so far and the numbers for ids are the same. -/
structure Framed (store store' : Offline) : Prop where
  flags : store'.flags = store.flags
  calls : store'.calls = store.calls
  draws : store'.draws = store.draws

theorem Framed.refl (store : Offline) : Framed store store := ⟨rfl, rfl, rfl⟩

theorem saveInto_framed (store : Offline) (kit : Kit) (fields : Fields) :
    Framed store (store.saveInto kit fields).2 := by
  rcases saveInto_cases store kit fields with ⟨f, hf⟩ | ⟨kit', -, hkit'⟩
  · rw [hf]
    exact .refl store
  · rw [hkit']
    exact ⟨rfl, rfl, rfl⟩

theorem save_framed (store : Offline) (fields : Fields) (id : Json) : Framed store (store.save fields id).2 := by
  unfold save
  split
  · exact .refl store
  · split
    · have hcreated := saveInto_framed { store with drawn := store.drawn + 1 } store.newKit fields
      exact ⟨hcreated.flags, hcreated.calls, hcreated.draws⟩
    · unfold update
      split
      · exact .refl store
      · exact .refl store
      · exact saveInto_framed store _ fields

theorem delete_framed (store : Offline) (id : Json) : Framed store (store.delete id).2 := by
  unfold delete
  split
  · exact .refl store
  · split <;> exact ⟨rfl, rfl, rfl⟩

theorem answer_framed (store : Offline) (call : Call) : Framed (store.heard call) (store.answer call).2 := by
  unfold answer respond
  split
  · exact ⟨rfl, rfl, rfl⟩
  · cases call with
    | listKits => exact ⟨rfl, rfl, rfl⟩
    | getKit id => exact ⟨rfl, rfl, rfl⟩
    | saveKit fields id => exact save_framed (store.heard (.saveKit fields id)) fields id
    | deleteKit id => exact delete_framed (store.heard (.deleteKit id)) id

end KitConsole.Offline
