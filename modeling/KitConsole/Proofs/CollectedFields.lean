import KitConsole.Console
import KitConsole.Offline

/-!
# Collected fields

* `pieces` — the pieces between the commas of a text, without the blanks after a comma; `splitList_eq` says that the
  console splits a list into those of them that are not empty, and `splitList_strip_eq_nil_iff` when there are none.
* `familyEntries`, `fieldsFrom` — the fields that a name, a list of domains and the ids of families are collected into.
* `idField_not_mem_keys`, `fieldOf_name`, `fieldOf_domains`, `familiesOf_fieldsFrom` — the answers can be read off the
  fields.
* `merge_fieldsFrom` — what the store makes of them.
-/

namespace KitConsole

namespace Console

/-! ## lists -/

/-- The pieces between commas; all but the first begin after the blanks that follow a comma. -/
def pieces (cs : List Char) : List (List Char) :=
  match cs.splitOn ',' with
  | [] => []
  | first :: others => first :: others.map Text.stripLeft

theorem splitOn_comma_cons (c : Char) (cs : List Char) : (c :: cs).splitOn ',' =
    if c = ',' then [] :: cs.splitOn ',' else (cs.splitOn ',').modifyHead (c :: ·) := by
  simp [List.splitOn, List.splitOnP_cons_eq_if_modifyHead]

theorem piecesFrom_eq (cs : List Char) :
    piecesFrom false cs = pieces cs ∧ piecesFrom true cs = (cs.splitOn ',').map Text.stripLeft := by
  -- a comma leads from the first to the second, and any other character that is kept back to the first
  induction cs with
  | nil => exact ⟨rfl, rfl⟩
  | cons c cs ih =>
    obtain ⟨ihfalse, ihtrue⟩ := ih
    unfold pieces at ihfalse ⊢
    rw [splitOn_comma_cons]
    by_cases hcomma : c = ','
    · simp [piecesFrom, hcomma, ihtrue, Text.stripLeft]
    · rcases hsplit : cs.splitOn ',' with _ | ⟨piece, others⟩ <;> rw [hsplit] at ihfalse ihtrue
      · exact absurd hsplit (List.splitOn_ne_nil ',' cs)
      · by_cases hblank : Text.isBlank c
        · simp [piecesFrom, hcomma, hblank, ihfalse, ihtrue, Text.stripLeft]
        · simp [piecesFrom, hcomma, hblank, ihfalse, Text.stripLeft]

/-- A list is split into the pieces that are not empty. -/
theorem splitList_eq (text : String) : splitList text = ((pieces text.toList).map .ofList).filter (· ≠ "") := by
  rw [splitList, (piecesFrom_eq text.toList).1, List.filter_map]
  congr 1
  refine List.filter_congr fun piece _ => ?_
  cases piece <;> simp

theorem ne_empty_of_mem_splitList {text d : String} (h : d ∈ splitList text) : d ≠ "" := by
  rw [splitList_eq] at h
  exact of_decide_eq_true (List.mem_filter.1 h).2

/-- The pieces are empty of a text that is made of commas and blanks and does not begin with a blank, unless it stands
after a comma. -/
theorem piecesFrom_eq_nil_iff (afterComma : Bool) (cs : List Char)
    (h : afterComma = false → ∀ c, cs.head? = some c → Text.isBlank c = false) :
    (∀ piece ∈ piecesFrom afterComma cs, piece = []) ↔ ∀ c ∈ cs, c = ',' ∨ Text.isBlank c = true := by
  induction cs generalizing afterComma with
  | nil => simp [piecesFrom]
  | cons c cs ih =>
    have hafter := ih true (fun hfalse => nomatch hfalse)
    rw [piecesFrom, List.forall_mem_cons]
    by_cases hcomma : c = ','
    · rw [if_pos hcomma, List.forall_mem_cons, hafter]
      simp [hcomma]
    · rw [if_neg hcomma]
      cases hblank : Text.isBlank c with
      | true =>
        have hcut : afterComma = true := by
          cases afterComma with
          | true => rfl
          | false => exact absurd (h rfl c rfl) (by simp [hblank])
        rw [hcut, Bool.true_and, if_pos rfl, hafter]
        simp
      | false =>
        -- neither a comma nor a blank: the first piece begins with it
        rw [Bool.and_false, if_neg Bool.false_ne_true]
        refine iff_of_false ?_ (by simp [hcomma])
        rcases piecesFrom false cs with _ | ⟨piece, pieces⟩ <;> simp

/-- A list splits into nothing if there is nothing in it but commas and blanks. -/
theorem splitList_strip_eq_nil_iff (line : String) :
    splitList (Text.strip line) = [] ↔ ∀ c ∈ line.toList, c = ',' ∨ Text.isBlank c = true := by
  have hstripped : (Text.strip line).toList = Text.stripChars line.toList := String.toList_ofList
  have hpieces := piecesFrom_eq_nil_iff false (Text.stripChars line.toList) fun _ c hc =>
    Text.isBlank_head?_stripChars hc
  rw [splitList, hstripped, List.map_eq_nil_iff, List.filter_eq_nil_iff]
  simp only [Bool.not_eq_true', Bool.not_eq_false, List.isEmpty_iff]
  rw [hpieces]
  constructor
  · intro h c hc
    cases hblank : Text.isBlank c with
    | true => exact .inr rfl
    | false =>
      rw [← hblank]
      exact h c (Text.mem_stripChars hc hblank)
  · intro h c hc
    exact h c (Text.mem_of_mem_stripChars hc)

/-! ## fields -/

/-- The ids of families under their keys, from the position `index` on. -/
def familyEntries : (index : Nat) → List String → Entries String
  | _, [] => []
  | index, id :: ids => (familyField index, id) :: familyEntries (index + 1) ids

def familyFields (ids : List String) : Fields := (familyEntries 0 ids).map fun e => (e.1, .string e.2)

/-- The fields that the answers are collected into; a name and domains that are blank are left out. -/
def fieldsFrom (name domains : String) (families : List String) : Fields :=
  (if name = "" then [] else [("name", .string name)])
    ++ (if domains = "" then [] else [("domains", .list ((splitList domains).map .string))])
    ++ familyFields families

end Console

open Console Offline

/-! ## reading answers off the fields -/

theorem isFamilyField_familyField (index : Int) : isFamilyField (familyField index) = true := by
  simp [isFamilyField, familyField]

theorem isFamilyField_of_mem_familyEntries {index : Nat} {ids : List String} {e : String × String}
    (h : e ∈ familyEntries index ids) : isFamilyField e.1 = true := by
  induction ids generalizing index with
  | nil => simp [familyEntries] at h
  | cons id ids ih =>
    rcases List.mem_cons.1 h with rfl | h
    · exact isFamilyField_familyField index
    · exact ih h

theorem isFamilyField_of_mem_keys {k : String} {ids : List String} (h : k ∈ Entries.keys (familyFields ids)) :
    isFamilyField k = true := by
  obtain ⟨e, he, rfl⟩ := List.mem_map.1 h
  obtain ⟨f, hf, rfl⟩ := List.mem_map.1 he
  exact isFamilyField_of_mem_familyEntries hf

/-- Only the ids of families stand under the keys of families. -/
theorem mem_keys_fieldsFrom {k name domains : String} {families : List String}
    (h : k ∈ Entries.keys (fieldsFrom name domains families)) :
    k = "name" ∧ name ≠ "" ∨ k = "domains" ∧ domains ≠ "" ∨ isFamilyField k = true := by
  simp only [fieldsFrom, Entries.keys, List.map_append, List.mem_append] at h
  rcases h with (h | h) | h
  · by_cases hname : name = "" <;> simp_all
  · by_cases hdomains : domains = "" <;> simp_all
  · exact .inr (.inr (isFamilyField_of_mem_keys h))

theorem idField_not_mem_keys (name domains : String) (families : List String) :
    idField ∉ Entries.keys (fieldsFrom name domains families) := by
  intro h
  rcases mem_keys_fieldsFrom h with ⟨h, -⟩ | ⟨h, -⟩ | h <;> revert h <;> decide

theorem get?_familyFields {k : String} (hk : isFamilyField k = false) (ids : List String) :
    Entries.get? k (familyFields ids) = none := by
  refine Option.not_isSome_iff_eq_none.1 fun h => ?_
  have hfamily := isFamilyField_of_mem_keys ((Entries.get?_isSome_iff k _).1 h)
  simp [hk] at hfamily

theorem fieldOf_name (name domains : String) (families : List String) :
    fieldOf (fieldsFrom name domains families) "name" = if name = "" then .null else .string name := by
  have hfamilies := get?_familyFields (k := "name") (by decide) families
  by_cases hname : name = "" <;> by_cases hdomains : domains = "" <;>
    simp [fieldOf, fieldsFrom, Json.field, Entries.get?, hname, hdomains, hfamilies, Json.ofOption]

theorem fieldOf_domains (name domains : String) (families : List String) :
    fieldOf (fieldsFrom name domains families) "domains" =
      if domains = "" then .null else .list ((splitList domains).map .string) := by
  have hfamilies := get?_familyFields (k := "domains") (by decide) families
  by_cases hname : name = "" <;> by_cases hdomains : domains = "" <;>
    simp [fieldOf, fieldsFrom, Json.field, Entries.get?, hname, hdomains, hfamilies, Json.ofOption]

theorem familiesOf_append (fields more : Fields) :
    familiesOf (fields ++ more) = familiesOf fields ++ familiesOf more := by
  simp [familiesOf]

theorem familiesOf_familyFields (ids : List String) : familiesOf (familyFields ids) = ids.filter (· ≠ "") := by
  have hentries : ∀ index, familiesOf ((familyEntries index ids).map fun e => (e.1, Json.string e.2)) =
      ids.filter (· ≠ "") := by
    induction ids with
    | nil => exact fun _ => rfl
    | cons id ids ih =>
      intro index
      have hrest := ih (index + 1)
      by_cases hid : id = "" <;>
        simp_all [familiesOf, familyEntries, isFamilyField_familyField, Json.truthy, Json.text]
  exact hentries 0

theorem familiesOf_fieldsFrom (name domains : String) (families : List String) :
    familiesOf (fieldsFrom name domains families) = families.filter (· ≠ "") := by
  have hname : isFamilyField "name" = false := by decide
  have hdomains : isFamilyField "domains" = false := by decide
  rw [fieldsFrom, familiesOf_append, familiesOf_append, familiesOf_familyFields]
  by_cases hn : name = "" <;> by_cases hd : domains = "" <;> simp [familiesOf, hn, hd, hname, hdomains]

/-- **What is left blank is kept**: the store replaces a name that is entered, domains of which one is not empty, and
families of which one is not blank. -/
theorem merge_fieldsFrom (kit : Kit) (name domains : String) (families : List String) :
    merge kit (fieldsFrom name domains families) = .ok { kit with
      name := if name = "" then kit.name else name
      domains := if splitList domains = [] then kit.domains else (splitList domains).map .string
      families := if families.filter (· ≠ "") = [] then kit.families else families.filter (· ≠ "") } := by
  have hblank : splitList "" = [] := by decide
  rw [merge, fieldOf_name, fieldOf_domains, familiesOf_fieldsFrom]
  by_cases hname : name = "" <;> by_cases hdomains : domains = "" <;> by_cases hlist : splitList domains = [] <;>
    simp_all [Json.truthy, itemsOf, Except.map, Json.text]

end KitConsole
