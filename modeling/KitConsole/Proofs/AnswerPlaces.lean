import Mathlib.Data.List.Nodup
import KitConsole.Proofs.BlankAnswers

/-!
# Every answer in its place

* `familyField_injective`, `familyField_not_mem` — the key of a family is the key of no other family, nor of the name,
  the domains or the id of a kit.
* `answerAt`, `entered` — the answer on a line; the fields that the lines enter, in order.
* `nodup_keys_entered` — no two of them stand under one key.
* `collectFields_entered` — collecting the fields of a kit reads one line for each of them and enters them so.
-/

namespace KitConsole

/-! ## the keys of families -/

theorem familyField_injective : Function.Injective fun i : Nat => familyField i := by
  intro i j h
  have hnumeral : i.repr = j.repr := (String.append_right_inj _).1 ((String.append_left_inj _).1 h)
  have hdigits : Nat.toDigits 10 i = Nat.toDigits 10 j := by
    rw [← Nat.toList_repr, hnumeral, Nat.toList_repr]
  calc i = Nat.ofDigitChars 10 (Nat.toDigits 10 i) 0 := Nat.ofDigitChars_ten_toDigits.symm
    _ = Nat.ofDigitChars 10 (Nat.toDigits 10 j) 0 := by rw [hdigits]
    _ = j := Nat.ofDigitChars_ten_toDigits

theorem familyField_not_mem (i : Nat) : familyField i ∉ ["name", "domains", idField] := by
  intro hmem
  have hfamily := isFamilyField_familyField i
  have hother : ∀ k ∈ ["name", "domains", idField], Offline.isFamilyField k = false := by decide
  rw [hother _ hmem] at hfamily
  exact nomatch hfamily

namespace Console

/-! ## what the lines enter -/

/-- The answer on a line, counted from zero; it is blank where the stream has ended. -/
def answerAt (lines : List String) (i : Nat) : String := Text.strip (lines.getD i "")

/-- The fields that the lines enter, in order: a name and domains that are not blank, and as many families as are asked
for, each under the key of its place. -/
def entered (lines : List String) : Fields :=
  (if answerAt lines 0 = "" then [] else [("name", .string (answerAt lines 0))])
    ++ (if answerAt lines 1 = "" then [] else [("domains", .list ((splitList (answerAt lines 1)).map .string))])
    ++ (List.range (familyCount (answerAt lines 2))).map fun i : Nat =>
      (familyField i, .string (answerAt lines (i + 3)))

theorem familyEntries_map_range' (index count : Nat) (f : Nat → String) :
    familyEntries index ((List.range' index count).map f) =
      (List.range' index count).map fun i : Nat => (familyField i, f i) := by
  induction count generalizing index with
  | zero => rfl
  | succ count ih => rw [List.range'_succ, List.map_cons, List.map_cons, familyEntries, ih]

theorem fieldsFrom_eq_entered (lines : List String) :
    fieldsFrom (answerOf lines) (answerOf lines.tail)
      (answersOf (familyCount (answerOf lines.tail.tail)) lines.tail.tail.tail) = entered lines := by
  obtain ⟨hname, hdomains, hcount, hfamilies⟩ := answers_eq lines
  rw [hname, hdomains, hcount, hfamilies, fieldsFrom, familyFields, List.range_eq_range', familyEntries_map_range',
    List.map_map, ← List.range_eq_range']
  rfl

theorem keys_entered (lines : List String) : Entries.keys (entered lines) =
    (if answerAt lines 0 = "" then [] else ["name"]) ++ (if answerAt lines 1 = "" then [] else ["domains"])
      ++ (List.range (familyCount (answerAt lines 2))).map fun i : Nat => familyField i := by
  unfold entered Entries.keys
  by_cases hname : answerAt lines 0 = "" <;> by_cases hdomains : answerAt lines 1 = "" <;>
    simp [hname, hdomains, Function.comp_def]

/-- No two of the fields stand under one key. -/
theorem nodup_keys_entered (lines : List String) : (Entries.keys (entered lines)).Nodup := by
  have hfixed : List.Sublist ((if answerAt lines 0 = "" then [] else ["name"]) ++
      (if answerAt lines 1 = "" then [] else ["domains"])) ["name", "domains"] := by
    split <;> split <;> decide
  have hfamilies : ((List.range (familyCount (answerAt lines 2))).map fun i : Nat => familyField i).Nodup :=
    List.nodup_range.map familyField_injective
  rw [keys_entered, List.nodup_append]
  refine ⟨hfixed.nodup (by decide), hfamilies, ?_⟩
  rintro k hk _ hl rfl
  obtain ⟨i, -, rfl⟩ := List.mem_map.1 hl
  exact familyField_not_mem i (List.mem_append_left [idField] (hfixed.subset hk))

/-! ## collecting -/

/-- **Every answer is collected in its place**: one line is read for the name, one for the domains, one for the number of
families, and one for each of as many families; the fields are what these lines enter.  No two have the same key, so
each is found under its own, and none is written over another. -/
theorem collectFields_entered (lines : List String) (output : String) :
    (∃ output', turn collectFields { lines, output } = {
      result := .ok (entered lines)
      world := { lines := lines.drop (3 + familyCount (answerAt lines 2)), output := output' } }) ∧
    Entries.ofPairs (entered lines) = entered lines ∧
    (∀ e ∈ entered lines, Entries.get? e.1 (entered lines) = some e.2) ∧
    Function.Injective (fun i : Nat => familyField i) ∧
    ∀ i : Nat, familyField i ∉ ["name", "domains", idField] := by
  refine ⟨?turn, ?written, ?found, familyField_injective, familyField_not_mem⟩
  case turn =>
    have hreads := reads_collectFields lines
    obtain ⟨-, -, hcount, -⟩ := answers_eq lines
    have hdrop : lines.tail.tail.tail.drop (familyCount (answerOf lines.tail.tail)) =
        lines.drop (3 + familyCount (answerAt lines 2)) := by
      rw [List.drop_tail, List.drop_tail, List.drop_tail, hcount, Nat.add_comm 3]
      rfl
    rw [fieldsFrom_eq_entered, hdrop] at hreads
    exact hreads.turn_eq output
  case written => exact Entries.ofPairs_eq_self (nodup_keys_entered lines)
  case found => exact fun e he => Entries.get?_of_mem (nodup_keys_entered lines) he

end Console

end KitConsole
