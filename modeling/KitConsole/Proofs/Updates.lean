import KitConsole.Proofs.StoreHistory

/-!
# Updates of a kit

* `lastOr blank d l` — the last of the values that is not blank, `d` where all are.
* `Offline.Plain` — fields with a text for a name, a list of texts for domains, and texts for families.
* `Offline.nameIn`, `domainsIn`, `familiesIn` — what fields say of a kit; `Kit.updated` — the kit with the last of it.
* `merge_of_plain` — one update; `updated_append`, `updated_updated` — one after the other, and the same again.
* `kits_after_updates` — the kits after some updates.
* `Merges` — what some updates of a kit make of a store; `after_updates` — of a store without failures.
-/

namespace KitConsole

/-! ## the last value that is not blank -/

section LastOr

variable {α : Type} [DecidableEq α] {blank : α} {l : List α}

/-- The last of the values that is not `blank`, and `d` if there is none. -/
def lastOr (blank d : α) (l : List α) : α := (l.filter (· ≠ blank)).getLast?.getD d

theorem lastOr_singleton (blank d x : α) : lastOr blank d [x] = if x = blank then d else x := by
  by_cases h : x = blank <;> simp [lastOr, h]

theorem lastOr_append (blank d : α) (l l' : List α) : lastOr blank d (l ++ l') = lastOr blank (lastOr blank d l) l' := by
  unfold lastOr
  rw [List.filter_append, List.getLast?_append]
  cases (l'.filter (· ≠ blank)).getLast? <;> rfl

/-- The same values once more make no difference. -/
theorem lastOr_lastOr (blank d : α) (l : List α) : lastOr blank (lastOr blank d l) l = lastOr blank d l := by
  unfold lastOr
  cases (l.filter (· ≠ blank)).getLast? <;> rfl

theorem lastOr_of_blank (d : α) (h : ∀ x ∈ l, x = blank) : lastOr blank d l = d := by
  have hfilter : l.filter (· ≠ blank) = [] := by
    apply List.filter_eq_nil_iff.2
    intro x hx
    simp [h x hx]
  rw [lastOr, hfilter]
  rfl

end LastOr

namespace Offline

/-! ## what fields say of a kit -/

/-- The text of a value that is one, and none of any other. -/
def textIn : Json → String
  | .string s => s
  | _ => ""

/-- The items of a value that is a list, and none of any other. -/
def itemsIn : Json → List Json
  | .list items => items
  | _ => []

def nameIn (fields : Fields) : String := textIn (fieldOf fields "name")

def domainsIn (fields : Fields) : List Json := itemsIn (fieldOf fields "domains")

/-- The values under the keys of families that are not empty, in the order of the fields. -/
def familiesIn (fields : Fields) : List String :=
  ((fields.filter fun e => isFamilyField e.1).map fun e => textIn e.2).filter (· ≠ "")

/-- A name is a text, domains are a list of texts, and families are texts; a name and domains may be missing. -/
structure Plain (fields : Fields) : Prop where
  name : fieldOf fields "name" = .null ∨ ∃ name, fieldOf fields "name" = .string name
  domains : fieldOf fields "domains" = .null ∨ ∃ domains : List String,
    fieldOf fields "domains" = .list (domains.map .string)
  families : ∀ e ∈ fields, isFamilyField e.1 = true → ∃ family, e.2 = .string family

/-- The fields say nothing of a kit. -/
structure Blank (fields : Fields) : Prop where
  name : nameIn fields = ""
  domains : domainsIn fields = []
  families : familiesIn fields = []

end Offline

/-- The kit with the last name, the last domains and the last families that one of the updates gives. -/
def Kit.updated (kit : Kit) (fs : List Fields) : Kit := { kit with
  name := lastOr "" kit.name (fs.map Offline.nameIn)
  domains := lastOr [] kit.domains (fs.map Offline.domainsIn)
  families := lastOr [] kit.families (fs.map Offline.familiesIn) }

namespace Offline

variable {store : Offline} {fields : Fields} {fs : List Fields} {id : String} {kit : Kit}

theorem updated_append (kit : Kit) (fs gs : List Fields) : kit.updated (fs ++ gs) = (kit.updated fs).updated gs := by
  simp only [Kit.updated, List.map_append, lastOr_append]

theorem updated_cons (kit : Kit) (fields : Fields) (fs : List Fields) :
    kit.updated (fields :: fs) = (kit.updated [fields]).updated fs :=
  updated_append kit [fields] fs

/-- The same updates once more make no difference. -/
theorem updated_updated (kit : Kit) (fs : List Fields) : (kit.updated fs).updated fs = kit.updated fs := by
  simp only [Kit.updated, lastOr_lastOr]

theorem updated_of_blank (kit : Kit) (h : ∀ fields ∈ fs, Blank fields) : kit.updated fs = kit := by
  have hname : lastOr "" kit.name (fs.map nameIn) = kit.name :=
    lastOr_of_blank _ (List.forall_mem_map.2 fun fields hf => (h fields hf).name)
  have hdomains : lastOr [] kit.domains (fs.map domainsIn) = kit.domains :=
    lastOr_of_blank _ (List.forall_mem_map.2 fun fields hf => (h fields hf).domains)
  have hfamilies : lastOr [] kit.families (fs.map familiesIn) = kit.families :=
    lastOr_of_blank _ (List.forall_mem_map.2 fun fields hf => (h fields hf).families)
  rw [Kit.updated, hname, hdomains, hfamilies]

/-! ## one update -/

theorem familiesOf_of_plain (h : Plain fields) : familiesOf fields = familiesIn fields := by
  have htexts : ∀ e ∈ fields, isFamilyField e.1 = true → e.2.truthy = decide (textIn e.2 ≠ "") ∧ e.2.text = textIn e.2 := by
    intro e he hfamily
    obtain ⟨family, hvalue⟩ := h.families e he hfamily
    rw [hvalue]
    constructor
    · by_cases hblank : family = "" <;> simp [Json.truthy, textIn, hblank]
    · rfl
  unfold familiesOf familiesIn
  rw [List.filter_map, List.filter_filter]
  have hfilter : (fields.filter fun e => isFamilyField e.1 && e.2.truthy) =
      fields.filter fun e => ((fun s => decide (s ≠ "")) ∘ fun e => textIn e.2) e && isFamilyField e.1 := by
    apply List.filter_congr
    intro e he
    by_cases hfamily : isFamilyField e.1 = true
    · simp only [hfamily, Bool.true_and, Bool.and_true, (htexts e he hfamily).1, Function.comp_apply]
    · simp [hfamily]
  rw [hfilter]
  apply List.map_congr_left
  intro e he
  obtain ⟨hmem, hkept⟩ := List.mem_filter.1 he
  exact (htexts e hmem (Bool.and_eq_true_iff.1 hkept).2).2

theorem merge_of_plain (h : Plain fields) (kit : Kit) : merge kit fields = .ok (kit.updated [fields]) := by
  have hname : (if (fieldOf fields "name").truthy then (fieldOf fields "name").text else kit.name) =
      lastOr "" kit.name [nameIn fields] := by
    rw [lastOr_singleton, nameIn]
    obtain hnull | ⟨name, hname⟩ := h.name
    · rw [hnull]
      rfl
    · rw [hname]
      by_cases hblank : name = "" <;> simp [Json.truthy, Json.text, textIn, hblank]
  have hdomains : (if (fieldOf fields "domains").truthy then itemsOf (fieldOf fields "domains") else .ok kit.domains) =
      .ok (lastOr [] kit.domains [domainsIn fields]) := by
    rw [lastOr_singleton, domainsIn]
    obtain hnull | ⟨domains, hdomains⟩ := h.domains
    · rw [hnull]
      rfl
    · rw [hdomains]
      cases domains <;> rfl
  have hfamilies : (if (familiesOf fields).isEmpty then kit.families else familiesOf fields) =
      lastOr [] kit.families [familiesIn fields] := by
    rw [lastOr_singleton, familiesOf_of_plain h]
    cases familiesIn fields <;> rfl
  unfold merge
  dsimp only
  rw [hname, hdomains, hfamilies]
  rfl

/-! ## updates in a row -/

/-- The calls that update a kit, one after the other. -/
def updates (id : String) (fs : List Fields) : List Call := fs.map fun fields => .saveKit fields (.string id)

/-- The update is answered with the kit that it makes of the one that was there. -/
theorem answer_update (hflags : store.flags = {}) (hkit : Entries.get? id store.kits = some kit) (hplain : Plain fields) :
    store.answer (.saveKit fields (.string id)) = (.ok (kitReply (kit.updated [fields])),
      (store.heard (.saveKit fields (.string id))).put (kit.updated [fields])) := by
  have hheard : Entries.get? id (store.heard (.saveKit fields (.string id))).kits = some kit := hkit
  rw [answer_saveKit_string (by rw [hflags]) (by rw [hflags]), update, find?_of_some hheard]
  dsimp only
  unfold saveInto
  rw [merge_of_plain hplain]

theorem kits_after_updates (hflags : store.flags = {}) (hkit : Entries.get? id store.kits = some kit) (hid : kit.id = id)
    (hplain : ∀ fields ∈ fs, Plain fields) :
    (store.after (updates id fs)).kits = Entries.put id (kit.updated fs) store.kits := by
  -- the kit of the induction is the one that the first update leaves
  induction fs generalizing store kit with
  | nil => exact (Entries.put_of_get? hkit).symm
  | cons fields fs ih =>
    obtain ⟨hfields, hfs⟩ := List.forall_mem_cons.1 hplain
    have hanswer := answer_update hflags hkit hfields
    have hkits : (store.answer (.saveKit fields (.string id))).2.kits =
        Entries.put id (kit.updated [fields]) store.kits := by
      rw [hanswer, ← hid]
      rfl
    have hflags' : (store.answer (.saveKit fields (.string id))).2.flags = {} :=
      (answer_framed store _).flags.trans hflags
    have hkit' : Entries.get? id (store.answer (.saveKit fields (.string id))).2.kits = some (kit.updated [fields]) := by
      rw [hkits, Entries.get?_put_self]
    calc (store.after (updates id (fields :: fs))).kits
        = ((store.answer (.saveKit fields (.string id))).2.after (updates id fs)).kits := rfl
      _ = Entries.put id ((kit.updated [fields]).updated fs) (Entries.put id (kit.updated [fields]) store.kits) := by
          rw [ih hflags' hkit' hid hfs, hkits]
      _ = Entries.put id (kit.updated (fields :: fs)) store.kits := by rw [Entries.put_put, ← updated_cons]

/-- What the updates `fs` make of a store that holds `kit` under the key `id`. -/
structure Merges (store : Offline) (id : String) (kit : Kit) (fs : List Fields) : Prop where
  stored : Entries.get? id (store.after (updates id fs)).kits = some (kit.updated fs)
  others : ∀ other, other ≠ id → Entries.get? other (store.after (updates id fs)).kits = Entries.get? other store.kits
  keys : (store.after (updates id fs)).kits.keys = store.kits.keys
  listing : ((store.after (updates id fs)).answer .listKits).1 = (store.answer .listKits).1
  answered : ∀ gs fields hs, fs = gs ++ fields :: hs →
    ((store.after (updates id gs)).answer (.saveKit fields (.string id))).1 =
      .ok (kitReply (kit.updated (gs ++ [fields])))
  repeated : ∀ gs hs, fs = gs ++ hs → (store.after (updates id (fs ++ hs))).kits = (store.after (updates id fs)).kits
  blank : (∀ fields ∈ fs, Blank fields) → (store.after (updates id fs)).kits = store.kits

/-- **Updates merge, and the last value that is not blank stays**: in a store without failures whose kits are stored under
their own ids, updates of one kit replace of it what they give, and leave everything else. -/
theorem after_updates (hflags : store.flags = {}) (hkept : Kept store.kits)
    (hkit : Entries.get? id store.kits = some kit) (hplain : ∀ fields ∈ fs, Plain fields) : Merges store id kit fs := by
  have hid : kit.id = id := hkept.id_eq hkit
  have hmem : id ∈ store.kits.keys := by
    rw [← Entries.get?_isSome_iff, hkit]
    rfl
  have hkits := kits_after_updates hflags hkit hid hplain
  have hkeys : (store.after (updates id fs)).kits.keys = store.kits.keys := by
    rw [hkits, Entries.keys_put, if_pos hmem]
  have hflags' : ∀ calls, (store.after calls).flags = {} := fun calls => (flags_after store calls).trans hflags
  refine ⟨?stored, ?others, hkeys, ?listing, ?answered, ?repeated, ?blank⟩
  case stored =>
    rw [hkits, Entries.get?_put_self]
  case others =>
    intro other hother
    rw [hkits, Entries.get?_put_of_ne hother]
  case listing =>
    have hlist : ∀ t : Offline, t.flags = {} → (t.answer .listKits).1 = .ok t.list := by
      intro t ht
      rw [answer_eq (by rw [ht])]
    rw [hlist _ (hflags' _), hlist _ hflags]
    unfold list listing
    rw [hflags', hflags, hkeys]
  case answered =>
    rintro gs fields hs rfl
    have hgs : ∀ f ∈ gs, Plain f := fun f hf => hplain f (List.mem_append_left _ hf)
    have hfields : Plain fields := hplain fields (by simp)
    have hkit' : Entries.get? id (store.after (updates id gs)).kits = some (kit.updated gs) := by
      rw [kits_after_updates hflags hkit hid hgs, Entries.get?_put_self]
    rw [answer_update (hflags' _) hkit' hfields, updated_append]
  case repeated =>
    rintro gs hs rfl
    have hhs : ∀ f ∈ hs, Plain f := fun f hf => hplain f (List.mem_append_right _ hf)
    have hall : ∀ f ∈ gs ++ hs ++ hs, Plain f := by
      intro f hf
      rcases List.mem_append.1 hf with hf | hf
      · exact hplain f hf
      · exact hhs f hf
    rw [hkits, kits_after_updates hflags hkit hid hall, updated_append, updated_append, updated_updated]
  case blank =>
    intro hblank
    rw [hkits, updated_of_blank kit hblank]
    exact Entries.put_of_get? hkit

/-- A new name, then blank answers among which there is one domain, then two families and an empty one. -/
def editing : List Fields :=
  [[("name", .string "Mine")], [("name", .string ""), ("domains", .list [.string "a.org"])],
    [("families[0][id]", .string "gkmg"), ("families[1][id]", .string ""), ("families[2][id]", .string "bdph")]]

theorem after_updates_editing :
    (withExampleKit {}).flags = {} ∧ Kept (withExampleKit {}).kits ∧
      Entries.get? "abc1def" (withExampleKit {}).kits = some exampleKit ∧ (∀ fields ∈ editing, Plain fields) ∧
      Entries.get? "abc1def" ((withExampleKit {}).after (updates "abc1def" editing)).kits =
        some { exampleKit with name := "Mine", domains := [.string "a.org"], families := ["gkmg", "bdph"] } := by
  have hkept : Kept (withExampleKit {}).kits := ⟨by decide, by decide⟩
  have hplain : ∀ fields ∈ editing, Plain fields := by
    intro fields hfields
    simp only [editing, List.mem_cons, List.not_mem_nil, or_false] at hfields
    obtain rfl | rfl | rfl := hfields
    · exact ⟨.inr ⟨_, rfl⟩, .inl rfl, by simp [isFamilyField]⟩
    · exact ⟨.inr ⟨_, rfl⟩, .inr ⟨["a.org"], rfl⟩, by simp [isFamilyField]⟩
    · exact ⟨.inl rfl, .inl rfl, by simp⟩
  exact ⟨rfl, hkept, rfl, hplain, (after_updates rfl hkept rfl hplain).stored⟩

end Offline

end KitConsole
