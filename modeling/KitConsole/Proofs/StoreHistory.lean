import KitConsole.Proofs.OfflineAnswers

/-!
# The history of an offline store

* `Offline.after`, `history` — the store after some calls, and the calls with their answers.
* `order` — the ids that a history leaves: a new kit comes last, a deleted one goes, and the others keep their places.
* `change?`, `lastWord` — what the last save or delete of a kit that succeeded says of it.
* `Does.kept`, `Does.keys_eq`, `Does.record_eq` — a call changes the kits as its answer says.
* `Presents ids word store` — the store answers every call as an ordered mapping of the ids to records.
* `after_presents` — after any calls, a store presents the order and the last words of its history.
-/

namespace KitConsole

/-- The call asks for a new kit. -/
def Call.creates : Call → Bool
  | .saveKit _ .null => true
  | _ => false

namespace Offline

variable {store : Offline} {kits kits' : Entries Kit} {newId : String} {call : Call} {r : Except Fault Reply}

/-! ## calls with their answers -/

/-- The store after the calls. -/
def after (store : Offline) : List Call → Offline
  | [] => store
  | call :: calls => after (store.answer call).2 calls

/-- A call with its answer. -/
abbrev Entry := Call × Except Fault Reply

def history (store : Offline) : List Call → List Entry
  | [] => []
  | call :: calls => (call, (store.answer call).1) :: history (store.answer call).2 calls

/-- Every new kit gets an id that is not in the store. -/
def DrawsFresh (store : Offline) : List Call → Prop
  | [] => True
  | call :: calls => (call.creates → store.newId ∉ store.kits.keys) ∧ DrawsFresh (store.answer call).2 calls

instance decidableDrawsFresh (store : Offline) : (calls : List Call) → Decidable (store.DrawsFresh calls)
  | [] => isTrue trivial
  | call :: calls =>
    have := decidableDrawsFresh (store.answer call).2 calls
    inferInstanceAs (Decidable ((call.creates → _) ∧ _))

/-- The id in the reply to a save. -/
def savedId (reply : Reply) : Json := reply.value.field idField

/-- The ids after the entry. -/
def reorder (ids : List String) : Entry → List String
  | (.saveKit _ .null, .ok reply) => if reply.ok then ids ++ [(savedId reply).text] else ids
  | (.deleteKit key, .ok reply) => if reply.ok then ids.filter fun id => key ≠ .string id else ids
  | _ => ids

def order (ids : List String) (entries : List Entry) : List String := entries.foldl reorder ids

/-- What the entry says of the kit `id`: its record if it is saved, and that there is none if it is deleted. -/
def change? (id : String) : Entry → Option (Option Json)
  | (.saveKit _ _, .ok reply) => if reply.ok ∧ savedId reply = .string id then some (some reply.value) else none
  | (.deleteKit key, .ok reply) => if reply.ok ∧ key = .string id then some none else none
  | _ => none

/-- The record of a kit. -/
def record (kits : Entries Kit) (id : String) : Option Json := (Entries.get? id kits).map fun kit => .object kit.payload

/-- The last word on the kit `id`, where there were `kits` at first. -/
def lastWord (kits : Entries Kit) (entries : List Entry) (id : String) : Option Json :=
  (entries.filterMap (change? id)).getLast?.getD (record kits id)

theorem record_eq_none_iff (kits : Entries Kit) (id : String) : record kits id = none ↔ id ∉ kits.keys := by
  rw [← Entries.get?_eq_none_iff, record, Option.map_eq_none_iff]

/-- There is no record of a kit that was deleted last, or that has never been there. -/
theorem lastWord_eq_none_iff {entries : List Entry} {id : String} : lastWord kits entries id = none ↔
    (entries.filterMap (change? id)).getLast? = some none ∨
      entries.filterMap (change? id) = [] ∧ id ∉ kits.keys := by
  unfold lastWord
  cases hlast : (entries.filterMap (change? id)).getLast? with
  | none => simp [List.getLast?_eq_none_iff.1 hlast, record_eq_none_iff]
  | some word =>
    have hne : entries.filterMap (change? id) ≠ [] := by
      intro hnil
      simp [hnil] at hlast
    simp [hne]

/-- The entries after the first have the last word, if they say anything. -/
theorem lastWord_cons (kits : Entries Kit) (e : Entry) (entries : List Entry) (id : String) :
    lastWord kits (e :: entries) id =
      (entries.filterMap (change? id)).getLast?.getD ((change? id e).getD (record kits id)) := by
  unfold lastWord
  cases hchange : change? id e with
  | none => simp [hchange]
  | some word => simp [hchange, List.getLast?_cons]

/-! ## one call -/

/-- Every kit is stored under its own id, and no id occurs twice. -/
structure Kept (kits : Entries Kit) : Prop where
  own : ∀ e ∈ kits, e.2.id = e.1
  nodup : kits.keys.Nodup

theorem Kept.id_eq (h : Kept kits) {id : String} {kit : Kit} (hkit : Entries.get? id kits = some kit) : kit.id = id :=
  h.own _ (Entries.mem_of_get? hkit)

theorem Kept.put (h : Kept kits) (kit : Kit) : Kept (Entries.put kit.id kit kits) where
  own e he := by
    rcases Entries.mem_of_mem_put he with rfl | he
    · rfl
    · exact h.own e he
  nodup := Entries.nodup_keys_put kit.id kit h.nodup

theorem Kept.erase (h : Kept kits) (id : String) : Kept (Entries.erase id kits) where
  own e he := h.own e (Entries.mem_of_mem_erase he)
  nodup := by
    rw [Entries.keys_erase]
    exact h.nodup.erase id

theorem change?_saved (id : String) (fields : Fields) (key : Json) (kit : Kit) :
    change? id (.saveKit fields key, .ok (kitReply kit)) =
      if kit.id = id then some (some (.object kit.payload)) else none := by
  have hid : savedId (kitReply kit) = .string kit.id := rfl
  have hvalue : (kitReply kit).value = .object kit.payload := rfl
  have hok : (kitReply kit).ok = true := rfl
  simp [change?, hid, hvalue, hok]

theorem change?_deleted (id key : String) :
    change? id (.deleteKit (.string key), .ok deletedReply) = if key = id then some none else none := by
  have hok : deletedReply.ok = true := rfl
  simp [change?, hok]

theorem record_put (kit : Kit) (kits : Entries Kit) (id : String) :
    record (Entries.put kit.id kit kits) id = if kit.id = id then some (.object kit.payload) else record kits id := by
  unfold record
  split
  · rename_i hid
    rw [← hid, Entries.get?_put_self]
    rfl
  · rename_i hid
    rw [Entries.get?_put_of_ne (Ne.symm hid)]

theorem record_erase (h : kits.keys.Nodup) (key id : String) :
    record (Entries.erase key kits) id = if key = id then none else record kits id := by
  unfold record
  split
  · rename_i hid
    rw [← hid, Entries.get?_erase_self h]
    rfl
  · rename_i hid
    rw [Entries.get?_erase_of_ne (Ne.symm hid)]

theorem reorder_idle (h : Idle call r) (ids : List String) : reorder ids (call, r) = ids := by
  unfold reorder
  split
  · rename_i heq
    obtain ⟨rfl, rfl⟩ := Prod.mk.inj heq
    exact if_neg (by simpa [Idle] using h)
  · rename_i heq
    obtain ⟨rfl, rfl⟩ := Prod.mk.inj heq
    exact if_neg (by simpa [Idle] using h)
  · rfl

theorem change?_idle (h : Idle call r) (id : String) : change? id (call, r) = none := by
  unfold change?
  split
  · rename_i heq
    obtain ⟨rfl, rfl⟩ := Prod.mk.inj heq
    exact if_neg fun hok => by simp [Idle, hok.1] at h
  · rename_i heq
    obtain ⟨rfl, rfl⟩ := Prod.mk.inj heq
    exact if_neg fun hok => by simp [Idle, hok.1] at h
  · rfl

theorem Does.kept (h : Does newId kits call r kits') (hkits : Kept kits) : Kept kits' := by
  cases h with
  | idle _ => exact hkits
  | created _ => exact hkits.put _
  | updated _ _ => exact hkits.put _
  | deleted _ => exact hkits.erase _

theorem Does.keys_eq (h : Does newId kits call r kits') (hkits : Kept kits) (hfresh : call.creates → newId ∉ kits.keys) :
    kits'.keys = reorder kits.keys (call, r) := by
  cases h with
  | idle hidle => exact (reorder_idle hidle kits.keys).symm
  | @created _ kit hid =>
    have hnew : kit.id ∉ kits.keys := by
      rw [hid]
      exact hfresh rfl
    rw [Entries.keys_put, if_neg hnew]
    rfl
  | @updated _ id old kit hold hid =>
    have hmem : kit.id ∈ kits.keys := by
      rw [hid, hkits.id_eq hold, ← Entries.get?_isSome_iff, hold]
      rfl
    rw [Entries.keys_put, if_pos hmem]
    rfl
  | @deleted id _ =>
    have hfilter : kits.keys.filter (fun l => decide (Json.string id ≠ .string l)) = kits.keys.filter (· != id) := by
      refine List.filter_congr fun l _ => ?_
      simp [bne, Bool.beq_eq_decide_eq, eq_comm]
    rw [Entries.keys_erase, hkits.nodup.erase_eq_filter]
    exact hfilter.symm

/-- A kit has the record that the entry gives, and the one that it had if the entry says nothing of it. -/
theorem Does.record_eq (h : Does newId kits call r kits') (hkits : Kept kits) (id : String) :
    record kits' id = (change? id (call, r)).getD (record kits id) := by
  have hsaved : ∀ (fields : Fields) (key : Json) (kit : Kit), record (Entries.put kit.id kit kits) id =
      (change? id (.saveKit fields key, .ok (kitReply kit))).getD (record kits id) := by
    intro fields key kit
    rw [record_put, change?_saved]
    split <;> rfl
  cases h with
  | idle hidle =>
    rw [change?_idle hidle]
    rfl
  | created _ => exact hsaved _ _ _
  | updated _ _ => exact hsaved _ _ _
  | @deleted key _ =>
    rw [record_erase hkits.nodup, change?_deleted]
    split <;> rfl

/-! ## a run of calls -/

theorem flags_after (store : Offline) (calls : List Call) : (store.after calls).flags = store.flags := by
  induction calls generalizing store with
  | nil => rfl
  | cons call calls ih => exact (ih _).trans (answer_framed store call).flags

theorem kept_after (hkits : Kept store.kits) (calls : List Call) : Kept (store.after calls).kits := by
  induction calls generalizing store with
  | nil => exact hkits
  | cons call calls ih => exact ih ((does_answer store call).kept hkits)

/-- The order of the history is the order of the kits. -/
theorem keys_after (hkits : Kept store.kits) (calls : List Call) (hfresh : store.DrawsFresh calls) :
    (store.after calls).kits.keys = order store.kits.keys (store.history calls) := by
  induction calls generalizing store with
  | nil => rfl
  | cons call calls ih =>
    have hdoes := does_answer store call
    have hrest := ih (hdoes.kept hkits) hfresh.2
    rw [hdoes.keys_eq hkits hfresh.1] at hrest
    exact hrest

/-- Every kit has the record that the last word of the history gives. -/
theorem record_after (hkits : Kept store.kits) (calls : List Call) (id : String) :
    record (store.after calls).kits id = lastWord store.kits (store.history calls) id := by
  -- what the first call says of the kit is its record before the calls that follow
  induction calls generalizing store with
  | nil => rfl
  | cons call calls ih =>
    have hdoes := does_answer store call
    have hrest := ih (hdoes.kept hkits)
    unfold lastWord at hrest
    rw [hdoes.record_eq hkits] at hrest
    rw [history, lastWord_cons]
    exact hrest

/-! ## what a store presents -/

/-- The store answers every call as an ordered mapping of the ids to records. -/
structure Presents (ids : List String) (word : String → Option Json) (store : Offline) : Prop where
  own : ∀ e ∈ store.kits, e.2.id = e.1
  nodup : ids.Nodup
  recorded : ∀ id, id ∈ ids ↔ (word id).isSome
  listKits : (store.answer .listKits).1 = .ok (.success "kits" [("kits", .list (ids.map fun id =>
    .object [("id", .string id), ("link", .string ("/api/v1/json/kits/" ++ id))]))])
  getKit : ∀ id, (store.answer (.getKit (.string id))).1 = .ok (match word id with
    | some record => .success "kit" [("kit", record)]
    | none => .failure "kit" notFoundText)
  create : ∀ fields, ListsDomains fields → ∃ kit, kit.id = store.newId ∧
    (store.answer (.saveKit fields .null)).1 = .ok (kitReply kit)
  update : ∀ id ∈ ids, ∀ fields, ListsDomains fields → ∃ kit, kit.id = id ∧
    (store.answer (.saveKit fields (.string id))).1 = .ok (kitReply kit)
  update_unknown : ∀ id ∉ ids, ∀ fields,
    (store.answer (.saveKit fields (.string id))).1 = .ok (.failure "kit" notFoundText)
  delete : ∀ id, (store.answer (.deleteKit (.string id))).1 =
    .ok (if id ∈ ids then deletedReply else .failure "ok" notFoundText)

/-- Without failures, a store presents its kits. -/
theorem presents_kits (hflags : store.flags = {}) (hkits : Kept store.kits) :
    Presents store.kits.keys (record store.kits) store := by
  have hauth : store.flags.authError = false := by
    rw [hflags]
  have hbad : store.flags.badRequestError = false := by
    rw [hflags]
  refine ⟨hkits.own, hkits.nodup, ?recorded, ?listKits, ?getKit, ?create, ?update, ?update_unknown, ?delete⟩
  case recorded =>
    intro id
    rw [← Entries.get?_isSome_iff, record, Option.isSome_map]
  case listKits =>
    rw [answer_eq hauth]
    simp [list, listing, hflags]
  case getKit =>
    intro id
    rw [answer_getKit hauth, fetched, record]
    cases Entries.get? id store.kits with
    | none => rfl
    | some kit => simp [hflags, kitReply]
  case create =>
    intro fields hdomains
    rw [answer_saveKit_null hauth hbad]
    exact create_of_listsDomains hdomains (store.heard (.saveKit fields .null))
  case update =>
    intro id hid fields hdomains
    obtain ⟨old, hold⟩ := Entries.exists_get? hid
    have hheard : Entries.get? id (store.heard (.saveKit fields (.string id))).kits = some old := hold
    obtain ⟨kit, hkitId, hkit⟩ := update_of_listsDomains hdomains hheard
    rw [answer_saveKit_string hauth hbad]
    exact ⟨kit, hkitId.trans (hkits.id_eq hold), hkit⟩
  case update_unknown =>
    intro id hid fields
    have hunknown : id ∉ (store.heard (.saveKit fields (.string id))).kits.keys := hid
    rw [answer_saveKit_string hauth hbad, update_of_not_mem hunknown]
  case delete =>
    intro id
    rw [answer_deleteKit hauth, removed, hflags]
    rfl

theorem Presents.refused_iff {ids : List String} {word : String → Option Json} (h : Presents ids word store)
    (id : String) : (store.answer (.getKit (.string id))).1 = .ok (.failure "kit" notFoundText) ↔ word id = none := by
  rw [h.getKit]
  cases word id with
  | none => simp
  | some record => simp [Reply.success, Reply.failure]

/-- **A store is an ordered mapping**: after any calls it lists the kits in the order of the history, and gives of each
kit what the last save that succeeded said. -/
theorem after_presents (hflags : store.flags = {}) (hkits : Kept store.kits) (calls : List Call)
    (hfresh : store.DrawsFresh calls) :
    Presents (order store.kits.keys (store.history calls)) (lastWord store.kits (store.history calls))
        (store.after calls) ∧
      ∀ id, ((store.after calls).answer (.getKit (.string id))).1 = .ok (.failure "kit" notFoundText) ↔
        ((store.history calls).filterMap (change? id)).getLast? = some none ∨
          (store.history calls).filterMap (change? id) = [] ∧ id ∉ store.kits.keys := by
  have hafter : Presents (store.after calls).kits.keys (record (store.after calls).kits) (store.after calls) :=
    presents_kits ((flags_after store calls).trans hflags) (kept_after hkits calls)
  have hwords : record (store.after calls).kits = lastWord store.kits (store.history calls) :=
    funext (record_after hkits calls)
  rw [keys_after hkits calls hfresh, hwords] at hafter
  refine ⟨hafter, fun id => ?_⟩
  rw [hafter.refused_iff, lastWord_eq_none_iff]

/-- A new kit takes the place of the example. -/
def replacing : List Call :=
  [.saveKit [("name", .string "Mine")] .null, .saveKit [("domains", .list [.string "a.org"])] (.string "abc1def"),
    .deleteKit (.string "abc1def"), .deleteKit (.string "abc1def")]

theorem after_presents_replacing :
    (withExampleKit {}).flags = {} ∧ Kept (withExampleKit {}).kits ∧ (withExampleKit {}).DrawsFresh replacing ∧
      Presents [freshId 1] (lastWord (withExampleKit {}).kits ((withExampleKit {}).history replacing))
        ((withExampleKit {}).after replacing) ∧
      (((withExampleKit {}).after replacing).answer (.getKit (.string "abc1def"))).1 =
        .ok (.failure "kit" notFoundText) := by
  have hkits : Kept (withExampleKit {}).kits := ⟨by decide, by decide⟩
  have hfresh : (withExampleKit {}).DrawsFresh replacing := by decide +kernel
  have horder : order (withExampleKit {}).kits.keys ((withExampleKit {}).history replacing) = [freshId 1] := by
    decide +kernel
  have hdeleted : (((withExampleKit {}).history replacing).filterMap (change? "abc1def")).getLast? = some none := by
    decide +kernel
  obtain ⟨hpresents, hrefused⟩ := after_presents rfl hkits replacing hfresh
  rw [horder] at hpresents
  exact ⟨rfl, hkits, hfresh, hpresents, (hrefused "abc1def").2 (.inl hdeleted)⟩

end Offline

end KitConsole
