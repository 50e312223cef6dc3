import Mathlib.Data.List.Basic
import Mathlib.Data.List.Induction
import Mathlib.Data.List.TakeWhile
import Mathlib.Data.Nat.Digits.Defs
import KitConsole.Number.Numeral

/-!
# Numerals without signs and separators

* `Text.digitValue?_le` — a decimal digit stands for a number up to 9.
* `digitOf`, `digitsOf` — the values of decimal digits.
* `readNat_of_decimal` — a numeral of decimal digits is read as the number with these digits, unless it is too long.
* `readNat_of_not_decimal` — a text in which something else than a decimal digit or a separator stands is no numeral.
* `readNat_toString` — a number is read back from what it is written as.
* `toDigits_ofDigitChars`, `head?_toDigits` — ASCII digits are what their number is written as, exactly if they do not
  begin with a zero.
-/

namespace KitConsole

namespace Text

theorem digitValue?_le {c : Char} {d : Nat} (h : digitValue? c = some d) : d ≤ 9 := by
  obtain ⟨z, hz, rfl⟩ := Option.map_eq_some_iff.1 h
  have hrange := List.find?_some hz
  simp only [Bool.and_eq_true, decide_eq_true_eq] at hrange
  omega

theorem isDecimal_underscore : isDecimal '_' = false := by decide

end Text

namespace Number

open KitConsole.Text

/-- The value of a decimal digit, of any script. -/
def digitOf (c : Char) : Nat := (digitValue? c).getD 0

def digitsOf (cs : List Char) : List Nat := cs.map digitOf

theorem digitValue?_of_decimal {c : Char} (h : isDecimal c = true) : digitValue? c = some (digitOf c) := by
  obtain ⟨d, hd⟩ := Option.isSome_iff_exists.1 h
  rw [digitOf, hd]
  rfl

/-- Where no separator is next, a digit is a place of its own. -/
theorem places?_cons {c d : Char} (hd : d ≠ '_') (cs : List Char) :
    places? (c :: d :: cs) = (digitValue? c).bind fun v => (places? (d :: cs)).map (v :: ·) := by
  rw [places?]
  · simp
  · simp [hd]

theorem places?_of_decimal {cs : List Char} (h : ∀ c ∈ cs, isDecimal c = true) (hne : cs ≠ []) :
    places? cs = some (digitsOf cs) := by
  match cs with
  | [] => exact absurd rfl hne
  | [c] => simp [places?, digitsOf, digitValue?_of_decimal (h c List.mem_cons_self)]
  | c :: d :: cs =>
    obtain ⟨hc, hcs⟩ := List.forall_mem_cons.1 h
    have hd : d ≠ '_' := by
      rintro rfl
      exact absurd (hcs '_' List.mem_cons_self) (by simp [isDecimal_underscore])
    rw [places?_cons hd, places?_of_decimal hcs (List.cons_ne_nil d cs), digitValue?_of_decimal hc]
    rfl

/-- A character that is neither a digit nor a separator is no part of a numeral. -/
theorem places?_eq_none {cs : List Char} {x : Char} (hx : x ∈ cs) (hdecimal : isDecimal x = false) (hne : x ≠ '_') :
    places? cs = none := by
  have hvalue : digitValue? x = none := Option.not_isSome_iff_eq_none.1 (by simpa [isDecimal] using hdecimal)
  fun_induction places? cs with
  | case1 => rfl
  | case2 c =>
    obtain rfl := List.mem_singleton.1 hx
    rw [hvalue]
    rfl
  | case3 c cs ih =>
    rcases List.mem_cons.1 hx with rfl | hx
    · rw [hvalue]
      rfl
    · have hx : x ∈ cs := (List.mem_cons.1 hx).resolve_left hne
      rw [ih hx]
      simp
  | case4 c cs _ _ ih =>
    rcases List.mem_cons.1 hx with rfl | hx
    · rw [hvalue]
      rfl
    · rw [ih hx]
      simp

/-- **A numeral of decimal digits is read as the number that they make up**, up to the greatest length. -/
theorem readNat_of_decimal {cs : List Char} (h : ∀ c ∈ cs, isDecimal c = true) (hne : cs ≠ []) :
    readNat cs = if cs.length ≤ maxDigits then .ok (ofPlaces (digitsOf cs)) else .error (.tooLong cs.length) := by
  have hleading : cs.takeWhile isDecimal = cs := List.takeWhile_eq_self_iff.2 h
  have hlength : (digitsOf cs).length = cs.length := List.length_map _
  rw [readNat, hleading, places?_of_decimal h hne]
  by_cases hlong : cs.length ≤ maxDigits
  · simp [hlong, hlength, Nat.not_lt.2 hlong]
  · simp [hlong, Nat.not_le.1 hlong]

/-- A text with a character that is neither a digit nor a separator is refused. -/
theorem readNat_of_not_decimal {cs : List Char} {x : Char} (hx : x ∈ cs) (hdecimal : isDecimal x = false)
    (hne : x ≠ '_') : ∃ f, readNat cs = .error f := by
  rw [readNat, places?_eq_none hx hdecimal hne]
  dsimp only
  split
  · exact ⟨_, rfl⟩
  · exact ⟨_, rfl⟩

/-- A decimal digit is no sign, so a text that begins with one is read as it is. -/
theorem readInt_of_decimal {c : Char} (hc : isDecimal c = true) (cs : List Char) :
    readInt (c :: cs) = (readNat (c :: cs)).map fun n => (n : Int) := by
  have hsigns : isDecimal '-' = false ∧ isDecimal '+' = false := by decide
  rw [readInt]
  · rintro rest hrest
    rw [(List.cons.inj hrest).1, hsigns.1] at hc
    exact nomatch hc
  · rintro rest hrest
    rw [(List.cons.inj hrest).1, hsigns.2] at hc
    exact nomatch hc

/-! ## written numbers -/

theorem digitValue?_of_isDigit {c : Char} (h : c.isDigit = true) : digitValue? c = some (c.toNat - '0'.toNat) := by
  obtain ⟨hlow, hhigh⟩ : 48 ≤ c.toNat ∧ c.toNat ≤ 57 := Char.isDigit_iff_toNat.1 h
  have hzeros : decimalZeros = 0x30 :: decimalZeros.tail := rfl
  rw [digitValue?, hzeros, List.find?_cons_of_pos (by simp only [Bool.and_eq_true, decide_eq_true_eq]; omega)]
  rfl

theorem isDecimal_of_isDigit {c : Char} (h : c.isDigit = true) : isDecimal c = true := by
  rw [isDecimal, digitValue?_of_isDigit h]
  rfl

theorem ofPlaces_digitsOf {cs : List Char} (h : ∀ c ∈ cs, c.isDigit = true) :
    ofPlaces (digitsOf cs) = Nat.ofDigitChars 10 cs 0 := by
  have hdigit : ∀ c ∈ cs, digitOf c = c.toNat - '0'.toNat := by
    intro c hc
    rw [digitOf, digitValue?_of_isDigit (h c hc)]
    rfl
  rw [ofPlaces, digitsOf, List.map_congr_left hdigit, List.foldl_map]
  rfl

theorem isDigit_of_mem_toString {n : Nat} {c : Char} (h : c ∈ (toString n).toList) : c.isDigit = true := by
  rw [Nat.toString_eq_repr, Nat.toList_repr] at h
  exact Nat.isDigit_of_mem_toDigits (by decide) (by decide) h

/-- A number is read back from what it is written as, if it is not too long. -/
theorem readNat_toString {n : Nat} (h : n < 10 ^ maxDigits) : readNat (toString n).toList = .ok n := by
  have hdecimal : ∀ c ∈ (toString n).toList, isDecimal c = true := fun c hc =>
    isDecimal_of_isDigit (isDigit_of_mem_toString hc)
  have hlength : (toString n).toList.length ≤ maxDigits := by
    rw [Nat.toString_eq_repr, Nat.toList_repr]
    exact (Nat.length_toDigits_le_iff (by decide) (by decide)).2 h
  have hvalue : ofPlaces (digitsOf (toString n).toList) = n := by
    rw [ofPlaces_digitsOf fun c hc => isDigit_of_mem_toString hc, Nat.toString_eq_repr, Nat.toList_repr,
      Nat.ofDigitChars_ten_toDigits]
  rw [readNat_of_decimal hdecimal (by simp), if_pos hlength, hvalue]

theorem digitChar_of_isDigit {c : Char} (h : c.isDigit = true) :
    c.toNat - '0'.toNat < 10 ∧ Nat.digitChar (c.toNat - '0'.toNat) = c := by
  obtain ⟨hlow, hhigh⟩ : 48 ≤ c.toNat ∧ c.toNat ≤ 57 := Char.isDigit_iff_toNat.1 h
  have hlt : c.toNat - '0'.toNat < 10 := show c.toNat - 48 < 10 by omega
  refine ⟨hlt, Char.toNat_inj.1 ?_⟩
  rw [Nat.toNat_digitChar_of_lt_ten hlt]
  exact Nat.add_sub_cancel' hlow

/-- **Digits that do not begin with a zero are what their number is written as**, and that number is not zero. -/
theorem toDigits_ofDigitChars {cs : List Char} (hne : cs ≠ []) (hdigits : ∀ c ∈ cs, c.isDigit = true)
    (hlead : cs.head? ≠ some '0') :
    0 < Nat.ofDigitChars 10 cs 0 ∧ Nat.toDigits 10 (Nat.ofDigitChars 10 cs 0) = cs := by
  -- from the last digit back: what stands before it is not zero, so the last digit is written behind it
  induction cs using List.reverseRecOn with
  | nil => exact absurd rfl hne
  | append_singleton cs c ih =>
    obtain ⟨hlt, hchar⟩ := digitChar_of_isDigit (hdigits c (by simp))
    rw [Nat.ofDigitChars_append, Nat.ofDigitChars_cons, Nat.ofDigitChars_nil]
    generalize c.toNat - '0'.toNat = d at hlt hchar ⊢
    subst hchar
    by_cases hcs : cs = []
    · subst hcs
      have hd : d ≠ 0 := by simpa using hlead
      rw [Nat.ofDigitChars_nil, Nat.mul_zero, Nat.zero_add, Nat.toDigits_of_lt_base hlt]
      exact ⟨Nat.pos_of_ne_zero hd, rfl⟩
    · rw [List.head?_append_of_ne_nil _ hcs] at hlead
      obtain ⟨hpos, hrest⟩ := ih hcs (fun x hx => hdigits x (by simp [hx])) hlead
      generalize Nat.ofDigitChars 10 cs 0 = m at hpos hrest ⊢
      have hdiv : (10 * m + d) / 10 = m := by omega
      have hmod : (10 * m + d) % 10 = d := by omega
      rw [Nat.toDigits_of_base_le (by decide) (by omega), hdiv, hmod, hrest]
      exact ⟨by omega, rfl⟩

/-- What a positive number is written as does not begin with a zero. -/
theorem head?_toDigits {n : Nat} (h : 0 < n) : (Nat.toDigits 10 n).head? ≠ some '0' := by
  induction n using Nat.strongRecOn with
  | ind n ih =>
    by_cases hlt : n < 10
    · rw [Nat.toDigits_of_lt_base hlt]
      simpa using Nat.ne_of_gt h
    · have hrest := ih (n / 10) (by omega) (by omega)
      rw [Nat.toDigits_of_base_le (by decide) (by omega), List.head?_append_of_ne_nil _ Nat.toDigits_ne_nil]
      exact hrest

end Number

end KitConsole
