import KitConsole.Proofs.StreamReading
import KitConsole.Remote

/-!
# Blank answers

* `Json.Filled` — a text that is not empty, or texts that are not, of which there are some.
* `filled_fieldsFrom_iff`, `form_fieldsFrom_iff` — which answers are collected into filled values, and into form values
  that are not empty.
* `Console.GivesAll` — nothing that the lines give is blank: a line of domains with a comma holds more than commas and
  blanks, and every family that is asked for has an id.
* `collectFields_filled_iff` — exactly then all that is collected is filled.  In every case an offline store keeps what
  was left blank.
-/

namespace KitConsole

/-! ## values -/

/-- A text or a list of texts, none of them empty, and not an empty list. -/
def Json.Filled : Json → Prop
  | .string s => s ≠ ""
  | .list items => items ≠ [] ∧ ∀ item ∈ items, ∃ s, item = .string s ∧ s ≠ ""
  | _ => False

theorem intercalate_eq_empty_iff {texts : List String} (h : ∀ s ∈ texts, s ≠ "") (separator : String) :
    separator.intercalate texts = "" ↔ texts = [] := by
  cases texts with
  | nil => simp
  | cons s rest =>
    have hs : s ≠ "" := h s List.mem_cons_self
    refine iff_of_false ?_ (by simp)
    cases rest with
    | nil => simpa using hs
    | cons t rest =>
      rw [String.intercalate_cons_cons]
      simp [hs]

namespace Console

/-- What the console collects: a text, or texts of which none is empty. -/
inductive Collected : Json → Prop
  | text (s : String) : Collected (.string s)
  | texts {ds : List String} : (∀ d ∈ ds, d ≠ "") → Collected (.list (ds.map .string))

theorem Collected.isNull_eq {v : Json} (h : Collected v) : v.isNull = false := by
  cases h <;> rfl

/-- All that is collected stands in the form. -/
theorem formOf_of_collected {fields : Fields} (h : ∀ e ∈ fields, Collected e.2) :
    Remote.formOf fields = fields.map fun e => (e.1, Remote.formValue e.2) := by
  have hfilter : fields.filter (fun e => !e.2.isNull) = fields := by
    apply List.filter_eq_self.2
    intro e he
    rw [(h e he).isNull_eq]
    rfl
  rw [Remote.formOf, hfilter]

theorem formValue_texts (ds : List String) : Remote.formValue (.list (ds.map .string)) = ",".intercalate ds := by
  have htexts : (ds.map Json.string).map (·.text) = ds := by
    rw [List.map_map]
    exact List.map_id ds
  rw [Remote.formValue, htexts]

/-- The form value is empty of what is not filled. -/
theorem Collected.formValue_ne_empty_iff {v : Json} (h : Collected v) : Remote.formValue v ≠ "" ↔ v.Filled := by
  cases h with
  | text s => rfl
  | @texts ds hds =>
    have hempty : Remote.formValue (.list (ds.map .string)) = "" ↔ ds = [] := by
      rw [formValue_texts]
      exact intercalate_eq_empty_iff hds ","
    rw [ne_eq, hempty]
    constructor
    · intro hne
      refine ⟨by simpa using hne, ?_⟩
      intro item hitem
      obtain ⟨d, hd, rfl⟩ := List.mem_map.1 hitem
      exact ⟨d, rfl, hds d hd⟩
    · rintro ⟨hne, -⟩ rfl
      exact hne rfl

theorem forall_mem_familyEntries (index : Nat) (ids : List String) (P : String → Prop) :
    (∀ e ∈ familyEntries index ids, P e.2) ↔ ∀ id ∈ ids, P id := by
  induction ids generalizing index with
  | nil => simp [familyEntries]
  | cons id ids ih => rw [familyEntries, List.forall_mem_cons, List.forall_mem_cons, ih]

theorem forall_mem_familyFields (ids : List String) (P : Json → Prop) :
    (∀ e ∈ familyFields ids, P e.2) ↔ ∀ id ∈ ids, P (.string id) := by
  rw [familyFields, List.forall_mem_map]
  exact forall_mem_familyEntries 0 ids fun id => P (.string id)

/-- What holds of every collected value: of the name and of the domains where they are not blank, and of all families. -/
theorem forall_mem_fieldsFrom (name domains : String) (families : List String) (P : Json → Prop) :
    (∀ e ∈ fieldsFrom name domains families, P e.2) ↔
      (name ≠ "" → P (.string name)) ∧ (domains ≠ "" → P (.list ((splitList domains).map .string))) ∧
        ∀ id ∈ families, P (.string id) := by
  rw [fieldsFrom, List.forall_mem_append, List.forall_mem_append, forall_mem_familyFields, and_assoc]
  refine and_congr ?_ (and_congr_left fun _ => ?_)
  · by_cases hname : name = "" <;> simp [hname]
  · by_cases hdomains : domains = "" <;> simp [hdomains]

theorem collected_fieldsFrom (name domains : String) (families : List String) :
    ∀ e ∈ fieldsFrom name domains families, Collected e.2 := by
  rw [forall_mem_fieldsFrom]
  exact ⟨fun _ => .text name, fun _ => .texts fun d hd => ne_empty_of_mem_splitList hd, fun id _ => .text id⟩

/-- Filled values are collected unless a list of domains splits into nothing or the id of a family is empty. -/
theorem filled_fieldsFrom_iff (name domains : String) (families : List String) :
    (∀ e ∈ fieldsFrom name domains families, e.2.Filled) ↔
      (domains ≠ "" → splitList domains ≠ []) ∧ ∀ id ∈ families, id ≠ "" := by
  have hlist : (Json.list ((splitList domains).map .string)).Filled ↔ splitList domains ≠ [] := by
    have hitems : ∀ item ∈ (splitList domains).map Json.string, ∃ s, item = .string s ∧ s ≠ "" := by
      intro item hitem
      obtain ⟨d, hd, rfl⟩ := List.mem_map.1 hitem
      exact ⟨d, rfl, ne_empty_of_mem_splitList hd⟩
    simp only [Json.Filled, ne_eq, List.map_eq_nil_iff, and_iff_left hitems]
  rw [forall_mem_fieldsFrom, hlist]
  exact and_iff_right id

/-- The form has empty values exactly for what is not filled. -/
theorem form_fieldsFrom_iff (name domains : String) (families : List String) :
    (∀ e ∈ Remote.formOf (fieldsFrom name domains families), e.2 ≠ "") ↔
      ∀ e ∈ fieldsFrom name domains families, e.2.Filled := by
  have hcollected := collected_fieldsFrom name domains families
  rw [formOf_of_collected hcollected, List.forall_mem_map]
  exact forall₂_congr fun e he => (hcollected e he).formValue_ne_empty_iff

/-! ## lines -/

/-- Nothing is blank of what the lines give beyond blank answers: a line of domains with a comma holds a character besides
commas and blanks, and of all families that are asked for the ids are given. -/
structure GivesAll (lines : List String) : Prop where
  domains : ',' ∈ (lines.getD 1 "").toList → ∃ c ∈ (lines.getD 1 "").toList, c ≠ ',' ∧ Text.isBlank c = false
  families : ∀ i < familyCount (Text.strip (lines.getD 2 "")), Text.isBlankText (lines.getD (i + 3) "") = false

theorem answersOf_eq (count : Nat) (lines : List String) :
    answersOf count lines = (List.range count).map fun i => Text.strip (lines.getD i "") := by
  induction count generalizing lines with
  | zero => rfl
  | succ count ih =>
    rw [answersOf, ih, List.range_succ_eq_map, List.map_cons, List.map_map]
    cases lines <;> rfl

/-- The answers that the fields are collected from, line by line. -/
theorem answers_eq (lines : List String) :
    answerOf lines = Text.strip (lines.getD 0 "") ∧ answerOf lines.tail = Text.strip (lines.getD 1 "") ∧
      answerOf lines.tail.tail = Text.strip (lines.getD 2 "") ∧
      ∀ count, answersOf count lines.tail.tail.tail =
        (List.range count).map fun i => Text.strip (lines.getD (i + 3) "") := by
  have hcount : ∀ count, answersOf count lines.tail.tail.tail =
      (List.range count).map fun i => Text.strip (lines.tail.tail.tail.getD i "") :=
    fun count => answersOf_eq count _
  match lines, hcount with
  | [], hcount => exact ⟨rfl, rfl, rfl, hcount⟩
  | [_], hcount => exact ⟨rfl, rfl, rfl, hcount⟩
  | [_, _], hcount => exact ⟨rfl, rfl, rfl, hcount⟩
  | _ :: _ :: _ :: _, hcount => exact ⟨rfl, rfl, rfl, hcount⟩

theorem gives_domains_iff (line : String) :
    (Text.strip line ≠ "" → splitList (Text.strip line) ≠ []) ↔
      (',' ∈ line.toList → ∃ c ∈ line.toList, c ≠ ',' ∧ Text.isBlank c = false) := by
  rw [ne_eq, Text.strip_eq_empty_iff, ne_eq, splitList_strip_eq_nil_iff, Text.isBlankText, List.all_eq_true]
  constructor
  · intro hlist hcomma
    apply Classical.byContradiction
    intro hnone
    have hall : ∀ c ∈ line.toList, c = ',' ∨ Text.isBlank c = true := by
      intro c hc
      by_cases hother : c = ','
      · exact .inl hother
      · exact .inr (Bool.of_not_eq_false fun hblank => hnone ⟨c, hc, hother, hblank⟩)
    have hnotBlank : ¬ ∀ c ∈ line.toList, Text.isBlank c = true := by
      intro hblank
      have hcommaBlank : Text.isBlank ',' = true := hblank ',' hcomma
      revert hcommaBlank
      decide
    exact hlist hnotBlank hall
  · intro hgiven hnotBlank hall
    -- without a comma all characters would be blank
    apply hnotBlank
    intro c hc
    rcases hall c hc with rfl | hblank
    · obtain ⟨d, hd, hother, hdblank⟩ := hgiven hc
      exact absurd (hall d hd) (by simp [hother, hdblank])
    · exact hblank

theorem gives_families_iff (lines : List String) (count : Nat) :
    (∀ id ∈ (List.range count).map fun i => Text.strip (lines.getD (i + 3) ""), id ≠ "") ↔
      ∀ i < count, Text.isBlankText (lines.getD (i + 3) "") = false := by
  simp only [List.forall_mem_map, List.mem_range, ne_eq, Text.strip_eq_empty_iff, Bool.not_eq_true]

/-- The kit keeps what was left blank. -/
structure KeepsBlank (lines : List String) (kit kit' : Kit) : Prop where
  name : Text.isBlankText (lines.getD 0 "") = true → kit'.name = kit.name
  domains : Text.isBlankText (lines.getD 1 "") = true → kit'.domains = kit.domains
  families : (∀ i < familyCount (Text.strip (lines.getD 2 "")), Text.isBlankText (lines.getD (i + 3) "") = true) →
    kit'.families = kit.families

theorem merge_keepsBlank (kit : Kit) (lines : List String) :
    ∃ kit', Offline.merge kit (fieldsFrom (Text.strip (lines.getD 0 "")) (Text.strip (lines.getD 1 ""))
        ((List.range (familyCount (Text.strip (lines.getD 2 "")))).map fun i => Text.strip (lines.getD (i + 3) ""))) =
      .ok kit' ∧ KeepsBlank lines kit kit' := by
  generalize hfamilies : ((List.range (familyCount (Text.strip (lines.getD 2 "")))).map fun i =>
    Text.strip (lines.getD (i + 3) "")) = families
  have hmerge := merge_fieldsFrom kit (Text.strip (lines.getD 0 "")) (Text.strip (lines.getD 1 "")) families
  refine ⟨_, hmerge, ?name, ?domains, ?families⟩
  case name =>
    intro hblank
    dsimp only
    rw [if_pos (Text.strip_eq_empty_iff.2 hblank)]
  case domains =>
    intro hblank
    have hlist : splitList (Text.strip (lines.getD 1 "")) = [] := by
      rw [Text.strip_eq_empty_iff.2 hblank]
      rfl
    dsimp only
    rw [if_pos hlist]
  case families =>
    intro hblank
    have hnone : families.filter (· ≠ "") = [] := by
      apply List.filter_eq_nil_iff.2
      rw [← hfamilies, List.forall_mem_map]
      intro i hi
      rw [Text.strip_eq_empty_iff.2 (hblank i (List.mem_range.1 hi))]
      decide
    dsimp only
    rw [if_pos hnone]

/-! ## collecting -/

theorem Takes.turn {α : Type} {act : Act α} {rest : List String} {a : α} {c : Console} (h : Takes act c.lines a rest) :
    (Console.turn act c).result = .ok a ∨
      c.source = .terminal ∧ (Console.turn act c).result = .error .endOfInput := by
  unfold Console.turn
  obtain ⟨c', hact, -⟩ | ⟨hterminal, c', hact⟩ := h c rfl
  · rw [hact]
    exact .inl rfl
  · rw [hact]
    exact .inr ⟨hterminal, rfl⟩

/-- **All that is collected is filled exactly if the lines give nothing blank**, and so are the values of the form; unless a
terminal ends before, the fields are collected.  An offline store keeps in every case what was left blank. -/
theorem collectFields_filled_iff (c : Console) :
    (c.source = .terminal ∧ (turn collectFields c).result = .error .endOfInput) ∨
      ∃ fields, (turn collectFields c).result = .ok fields ∧
        ((∀ e ∈ fields, e.2.Filled) ↔ GivesAll c.lines) ∧
        ((∀ e ∈ Remote.formOf fields, e.2 ≠ "") ↔ GivesAll c.lines) ∧
        ∀ kit, ∃ kit', Offline.merge kit fields = .ok kit' ∧ KeepsBlank c.lines kit kit' := by
  have htakes := takes_collectFields c.lines
  obtain ⟨hname, hdomains, hcount, hfamilies⟩ := answers_eq c.lines
  rw [hname, hdomains, hcount, hfamilies] at htakes
  obtain hfields | hended := htakes.turn
  · have hfilled := filled_fieldsFrom_iff (Text.strip (c.lines.getD 0 "")) (Text.strip (c.lines.getD 1 ""))
      ((List.range (familyCount (Text.strip (c.lines.getD 2 "")))).map fun i => Text.strip (c.lines.getD (i + 3) ""))
    rw [gives_domains_iff, gives_families_iff] at hfilled
    have hgives := hfilled.trans ⟨fun h => GivesAll.mk h.1 h.2, fun h => ⟨h.domains, h.families⟩⟩
    exact .inr ⟨_, hfields, hgives, (form_fieldsFrom_iff _ _ _).trans hgives, fun kit => merge_keepsBlank kit c.lines⟩
  · exact .inl hended

/-- A name, domains with an empty piece between two commas, and one family. -/
def oneFamily : List String := [" Mine", "a.org, ,b.org", "1", "gkmg "]

def oneFamilyFields : Fields :=
  [("name", .string "Mine"), ("domains", .list [.string "a.org", .string "b.org"]), ("families[0][id]", .string "gkmg")]

theorem collectFields_filled_iff_oneFamily :
    GivesAll oneFamily ∧ (turn collectFields { lines := oneFamily }).result = .ok oneFamilyFields ∧
      ∀ e ∈ oneFamilyFields, e.2.Filled := by
  have hgives : GivesAll oneFamily := by
    constructor
    · intro _
      exact ⟨'a', by decide, by decide, by decide⟩
    · decide +kernel
  have hfields : (turn collectFields { lines := oneFamily }).result = .ok oneFamilyFields := rfl
  refine ⟨hgives, hfields, ?_⟩
  obtain ⟨hterminal, -⟩ | ⟨fields, hcollected, hfilled, -⟩ := collectFields_filled_iff { lines := oneFamily }
  · exact nomatch hterminal
  · obtain rfl : oneFamilyFields = fields := Except.ok.inj (hfields.symm.trans hcollected)
    exact hfilled.2 hgives

/-- A comma for the domains and a blank id for a family come through as empty values. -/
theorem collectFields_blank :
    let fields : Fields := [("domains", .list []), ("families[0][id]", .string "")]
    (turn collectFields { lines := ["", ",", "1", ""] }).result = .ok fields ∧
      (∀ e ∈ fields, ¬ e.2.Filled) ∧ Remote.formOf fields = [("domains", ""), ("families[0][id]", "")] := by
  intro fields
  refine ⟨rfl, ?_, rfl⟩
  simp [fields, Json.Filled]

end Console

end KitConsole
