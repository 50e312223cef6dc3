import KitConsole.Proofs.Numerals
import KitConsole.Proofs.StreamReading

/-!
# Answers to a menu

* `Number.IsNumeral` — the decimal numeral of a positive number; `isNumeral_iff` says that there is one for each.
* `Console.Selects` — the line holds the number of the position; `position?_eq_some_iff`, `position?_eq_none_iff` say that
  the console takes it so.
* `chosen_eq` — the line that is taken is the first that selects an entry.
* `choose_selects` — a menu on a stream is always answered with an entry that it offers.
-/

namespace KitConsole

/-! ## the numeral of a number -/

namespace Number

/-- The text is the decimal numeral of a positive number: digits alone, and no zero in front. -/
structure IsNumeral (k : Nat) (text : String) : Prop where
  nonempty : text ≠ ""
  digits : ∀ c ∈ text.toList, c.isDigit = true
  leading : text.toList.head? ≠ some '0'
  value : Nat.ofDigitChars 10 text.toList 0 = k

theorem isNumeral_iff {k : Nat} (h : 0 < k) {text : String} : IsNumeral k text ↔ toString k = text := by
  constructor
  · rintro ⟨hne, hdigits, hlead, rfl⟩
    obtain ⟨-, hwritten⟩ := toDigits_ofDigitChars (by simpa using hne) hdigits hlead
    rw [Nat.toString_eq_ofList_toDigits, hwritten, String.ofList_toList]
  · rintro rfl
    refine ⟨by simp, fun c hc => isDigit_of_mem_toString hc, ?leading, ?value⟩
    case leading =>
      rw [Nat.toString_eq_repr, Nat.toList_repr]
      exact head?_toDigits h
    case value => rw [Nat.toString_eq_repr, Nat.toList_repr, Nat.ofDigitChars_ten_toDigits]

end Number

namespace Console

open KitConsole.Number

/-! ## lines that select -/

variable {n : Nat}

/-- The line, without the blanks around it, is the number of the position, counted from one. -/
def Selects (line : String) (i : Fin n) : Prop := IsNumeral (i.val + 1) (Text.strip line)

/-- A line selects no more than one entry. -/
theorem Selects.unique {line : String} {i j : Fin n} (hi : Selects line i) (hj : Selects line j) : i = j := by
  have hvalue := hi.value.symm.trans hj.value
  exact Fin.ext (by omega)

theorem decide_position_iff {line : String} (i : Fin n) :
    decide (toString (i.val + 1) = Text.strip line) = true ↔ Selects line i :=
  decide_eq_true_iff.trans (isNumeral_iff (Nat.succ_pos i)).symm

theorem selects_of_position? {line : String} {i : Fin n} (h : position? n (Text.strip line) = some i) :
    Selects line i := by
  unfold position? at h
  have hnumber := List.find?_some h
  exact (decide_position_iff i).1 hnumber

theorem position?_eq_some_iff {line : String} {i : Fin n} :
    position? n (Text.strip line) = some i ↔ Selects line i := by
  refine ⟨selects_of_position?, fun h => ?_⟩
  have hsome : (position? n (Text.strip line)).isSome = true :=
    List.find?_isSome.2 ⟨i, List.mem_finRange i, (decide_position_iff i).2 h⟩
  obtain ⟨j, hj⟩ := Option.isSome_iff_exists.1 hsome
  rw [hj, (selects_of_position? hj).unique h]

theorem position?_eq_none_iff {line : String} :
    position? n (Text.strip line) = none ↔ ∀ i : Fin n, ¬ Selects line i := by
  rw [Option.eq_none_iff_forall_ne_some]
  exact forall_congr' fun i => not_congr position?_eq_some_iff

/-- The entry that is chosen is selected by the first line that selects any; it is the first one if no line does. -/
theorem chosen_eq (first : Fin n) (lines : List String) {i : Fin n} {rest : List String}
    (h : chosen n first lines = (i, rest)) :
    (∃ before line, lines = before ++ line :: rest ∧ (∀ l ∈ before, ∀ j : Fin n, ¬ Selects l j) ∧ Selects line i) ∨
      (∀ l ∈ lines, ∀ j : Fin n, ¬ Selects l j) ∧ i = first ∧ rest = [] := by
  induction lines with
  | nil =>
    obtain ⟨rfl, rfl⟩ := Prod.mk.inj h
    exact .inr ⟨by simp, rfl, rfl⟩
  | cons line lines ih =>
    rw [chosen] at h
    rcases hposition : position? n (Text.strip line) with _ | j <;> rw [hposition] at h
    · have hnone := position?_eq_none_iff.1 hposition
      obtain ⟨before, chosenLine, rfl, hbefore, hselects⟩ | ⟨hall, hfirst, hrest⟩ := ih h
      · exact .inl ⟨line :: before, chosenLine, rfl, List.forall_mem_cons.2 ⟨hnone, hbefore⟩, hselects⟩
      · exact .inr ⟨List.forall_mem_cons.2 ⟨hnone, hall⟩, hfirst, hrest⟩
    · obtain ⟨rfl, rfl⟩ := Prod.mk.inj h
      exact .inl ⟨[], line, rfl, by simp, position?_eq_some_iff.1 hposition⟩

/-! ## menus -/

/-- The value at a position is the one that stands under its label. -/
theorem get?_label {α : Type} {menu : Menu α} (h : menu.labels.Nodup) (i : Fin menu.labels.length) :
    Entries.get? (menu.label i) menu.entries = some (menu.value i) := by
  apply Entries.get?_of_mem h
  have hlabel : menu.label i = (menu.entries.get (i.cast (by simp [Menu.labels, Entries.keys]))).1 :=
    List.getElem_map _
  rw [hlabel]
  exact List.get_mem _ _

/-- **A menu is answered with an entry that it offers**: the one that is selected by the first line that selects any, up
to which all lines are read; at the end of the stream it is the first entry. -/
theorem choose_selects {α : Type} (menu : Menu α) (hne : menu.entries ≠ []) (hlabels : menu.labels.Nodup)
    (lines : List String) (output : String) :
    ∃ i rest output', surface.choose menu.prompt menu.labels { lines, output } = {
        result := .ok i
        world := { lines := rest, output := output' } } ∧
      Entries.get? (menu.label i) menu.entries = some (menu.value i) ∧
      ((∃ before line, lines = before ++ line :: rest ∧
          (∀ l ∈ before, ∀ j : Fin menu.labels.length, ¬ Selects l j) ∧ Selects line i) ∨
        (∀ l ∈ lines, ∀ j : Fin menu.labels.length, ¬ Selects l j) ∧ i.val = 0 ∧ rest = []) := by
  have hpos : 0 < menu.labels.length := by
    rw [Menu.labels, Entries.keys, List.length_map]
    exact List.length_pos_iff.2 hne
  rcases hchosen : chosen menu.labels.length ⟨0, hpos⟩ lines with ⟨i, rest⟩
  have hreads := reads_choose menu.prompt hpos lines
  rw [hchosen] at hreads
  obtain ⟨output', hturn⟩ := hreads.turn_eq output
  refine ⟨i, rest, output', hturn, get?_label hlabels i, ?_⟩
  refine (chosen_eq _ lines hchosen).imp_right ?_
  rintro ⟨hall, rfl, hrest⟩
  exact ⟨hall, rfl, hrest⟩

/-- Two kits to choose from. -/
def twoKits : Menu String := ⟨"Select a Kit:", [("Example", "abc1def"), ("Other", "xyz2ghi")]⟩

/-- Numbers with a zero or a sign in front, in other digits, or of no entry are asked for again. -/
theorem choose_selects_other :
    let lines := ["01", "+1", "٢", "3", " 2 ", "1"]
    twoKits.entries ≠ [] ∧ twoKits.labels.Nodup ∧ ∃ i rest output',
      surface.choose twoKits.prompt twoKits.labels { lines } = {
        result := .ok i
        world := { lines := rest, output := output' } } ∧
      Entries.get? "Other" twoKits.entries = some (twoKits.value i) ∧ rest = ["1"] := by
  intro lines
  have hne : twoKits.entries ≠ [] := List.cons_ne_nil _ _
  have hlabels : twoKits.labels.Nodup := by decide
  obtain ⟨i, rest, output', hturn, hvalue, -⟩ := choose_selects twoKits hne hlabels lines ""
  have hresult : (surface.choose twoKits.prompt twoKits.labels { lines }).result = .ok ⟨1, by decide⟩ := by
    decide +kernel
  have hrest : (surface.choose twoKits.prompt twoKits.labels { lines }).world.lines = ["1"] := by
    decide +kernel
  rw [hturn] at hresult hrest
  obtain rfl := Except.ok.inj hresult
  exact ⟨hne, hlabels, _, rest, output', hturn, hvalue, hrest⟩

end Console

end KitConsole
