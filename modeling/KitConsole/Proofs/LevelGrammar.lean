import KitConsole.Proofs.LevelRequest

/-!
# The grammar of log levels

* `Denotes` — the level that a text stands for: the one that it names, or the number that its digits make up.
* `readLevel_eq_ok_iff` — exactly these levels are read.
* `readLevel_grammar` — with what becomes of all other values, and of a number that is written out.
-/

namespace KitConsole

namespace Number

open KitConsole.Text

/-- The number with the given places is the one with these digits, the lowest first. -/
theorem ofPlaces_eq_ofDigits (ds : List Nat) : ofPlaces ds = Nat.ofDigits 10 ds.reverse := by
  rw [Nat.ofDigits_eq_foldr, List.foldr_reverse, ofPlaces]
  simp only [Nat.cast_id, Nat.add_comm]

end Number

namespace Log

open KitConsole.Number KitConsole.Text

/-- The text stands for the level: it is its name, or a numeral of decimal digits, of any script, that is not too long.
-/
inductive Denotes (text : String) : Int → Prop
  | name {n : Int} : (text, n) ∈ [("CRITICAL", 50), ("FATAL", 50), ("ERROR", 40), ("WARN", 30), ("WARNING", 30),
      ("INFO", 20), ("DEBUG", 10), ("NOTSET", 0)] → Denotes text n
  | numeral : text ≠ "" → text.length ≤ 4300 → (∀ c ∈ text.toList, isDecimal c = true) →
      Denotes text (Nat.ofDigits 10 (digitsOf text.toList).reverse : Nat)

/-- The text is made of digit signs. -/
def Signs (text : String) : Prop := text ≠ "" ∧ ∀ c ∈ text.toList, isDigitSign c = true

theorem lookup_levelNames_iff {text : String} {n : Int} : levelNames.lookup text = some n ↔ (text, n) ∈ levelNames := by
  have hall : ∀ e ∈ levelNames, levelNames.lookup e.1 = some e.2 := by decide
  constructor
  · intro h
    obtain ⟨before, after, hnames, -⟩ := List.lookup_eq_some_iff.1 h
    rw [hnames]
    simp
  · exact fun h => hall (text, n) h

/-- No name of a level is made of digit signs. -/
theorem not_signs_of_mem {text : String} {n : Int} (h : (text, n) ∈ levelNames) : ¬ Signs text := by
  have hall : ∀ e ∈ levelNames, e.1.toList.all isDigitSign = false := by decide
  rintro ⟨-, hsigns⟩
  have hother : text.toList.all isDigitSign = false := hall (text, n) h
  rw [List.all_eq_true.2 hsigns] at hother
  exact nomatch hother

theorem signs_of_decimal {text : String} (hne : text ≠ "") (h : ∀ c ∈ text.toList, isDecimal c = true) : Signs text :=
  ⟨hne, fun c hc => by rw [isDigitSign, h c hc, Bool.true_or]⟩

/-- Of digit signs, a numeral has to be read. -/
theorem denotes_iff_of_signs {text : String} (h : Signs text) (n : Int) :
    Denotes text n ↔ ∃ m : Nat, readNat text.toList = .ok m ∧ n = m := by
  have hne : text.toList ≠ [] := by simpa using h.1
  constructor
  · rintro (hname | ⟨-, hlength, hdecimal⟩)
    · exact absurd h (not_signs_of_mem hname)
    · refine ⟨_, ?_, rfl⟩
      rw [readNat_of_decimal hdecimal hne, if_pos (by rw [String.length_toList]; exact hlength), ofPlaces_eq_ofDigits]
  · rintro ⟨m, hread, rfl⟩
    have hnumeral : ¬ ((∃ c ∈ text.toList, isDecimal c = false) ∨ maxDigits < text.toList.length) := by
      rw [← exists_error_readNat_iff hne h.2, hread]
      exact fun ⟨_, herror⟩ => nomatch herror
    obtain ⟨hall, hlength⟩ := not_or.1 hnumeral
    have hdecimal : ∀ c ∈ text.toList, isDecimal c = true := fun c hc =>
      Bool.of_not_eq_false fun hfalse => hall ⟨c, hc, hfalse⟩
    have hm : m = Nat.ofDigits 10 (digitsOf text.toList).reverse := by
      rw [readNat_of_decimal hdecimal hne, if_pos (Nat.not_lt.1 hlength), ofPlaces_eq_ofDigits] at hread
      exact (Except.ok.inj hread).symm
    rw [hm]
    exact .numeral h.1 (by rw [← String.length_toList]; exact Nat.not_lt.1 hlength) hdecimal

/-- Any other text has to be a name. -/
theorem denotes_iff_of_not_signs {text : String} (h : ¬ Signs text) (n : Int) :
    Denotes text n ↔ levelNames.lookup text = some n := by
  rw [lookup_levelNames_iff]
  constructor
  · rintro (hname | ⟨hne, -, hdecimal⟩)
    · exact hname
    · exact absurd (signs_of_decimal hne hdecimal) h
  · exact .name

/-! ## values -/

variable (value : Json)

/-- **The levels that are read are those that the text of the value stands for.** -/
theorem readLevel_eq_ok_iff (n : Int) : readLevel value = .ok n ↔ Denotes (levelText value) n := by
  by_cases hsigns : Signs (levelText value)
  · rw [denotes_iff_of_signs hsigns, readLevel_of_signs hsigns.1 hsigns.2]
    rcases readNat (levelText value).toList with e | m
    · simp [Except.map, Except.mapError]
    · simp [Except.map, Except.mapError, eq_comm]
  · rw [denotes_iff_of_not_signs hsigns, readLevel_of_not_signs hsigns]
    rcases levelNames.lookup (levelText value) with _ | m <;> simp

/-- A value that stands for no level is refused: digit signs for the numeral that they are not, any other value as it is.
-/
theorem readLevel_of_not_denotes (h : ∀ n, ¬ Denotes (levelText value) n) :
    (Signs (levelText value) → ∃ e, readLevel value = .error (.ofNumeral (levelText value) e)) ∧
      (¬ Signs (levelText value) → readLevel value = .error (.unknown value.inline)) := by
  constructor
  · intro hsigns
    rcases hread : readNat (levelText value).toList with e | m
    · exact ⟨e, by rw [readLevel_of_signs hsigns.1 hsigns.2, hread]; rfl⟩
    · exact absurd ((denotes_iff_of_signs hsigns m).2 ⟨m, hread, rfl⟩) (h m)
  · intro hsigns
    rcases hlookup : levelNames.lookup (levelText value) with _ | m
    · rw [readLevel_of_not_signs hsigns, hlookup]
      rfl
    · exact absurd ((denotes_iff_of_not_signs hsigns m).2 hlookup) (h m)

/-! ## numbers -/

/-- A digit is not blank, and it is its own capital. -/
theorem digit_unchanged {c : Char} (h : c.isDigit = true) :
    isBlank c = false ∧ mapCase upperShifts upperExpansions c = [c] := by
  have hall : ∀ d : Fin 10, isBlank (Nat.digitChar d) = false ∧
      mapCase upperShifts upperExpansions (Nat.digitChar d) = [Nat.digitChar d] := by decide +kernel
  obtain ⟨hlt, hchar⟩ := digitChar_of_isDigit h
  rw [← hchar]
  exact hall ⟨_, hlt⟩

theorem levelText_padded {pad pad' : String} (hpad : isBlankText pad = true) (hpad' : isBlankText pad' = true)
    (n : Nat) : levelText (.string (pad ++ toString n ++ pad')) = toString n := by
  have hdigit : ∀ c ∈ (toString n).toList, isBlank c = false ∧ mapCase upperShifts upperExpansions c = [c] :=
    fun c hc => digit_unchanged (isDigit_of_mem_toString hc)
  have hstrip : strip (toString n) = toString n :=
    strip_eq_self (fun c hc => (hdigit c (List.mem_of_head? hc)).1) fun c hc => (hdigit c (List.mem_of_getLast? hc)).1
  have hupper : upperChars (toString n).toList = (toString n).toList := by
    rw [upperChars, List.flatMap_congr fun c hc => (hdigit c hc).2]
    exact List.flatMap_singleton' _
  show upper (strip (pad ++ toString n ++ pad')) = _
  rw [strip_padded hpad hpad', hstrip, upper, hupper, String.ofList_toList]

theorem readLevel_padded {pad pad' : String} (hpad : isBlankText pad = true) (hpad' : isBlankText pad' = true) {n : Nat}
    (h : n < 10 ^ maxDigits) : readLevel (.string (pad ++ toString n ++ pad')) = .ok n := by
  rw [readLevel_eq_ok_iff, levelText_padded hpad hpad']
  have hsigns : Signs (toString n) :=
    signs_of_decimal (by simp) fun c hc => isDecimal_of_isDigit (isDigit_of_mem_toString hc)
  exact (denotes_iff_of_signs hsigns n).2 ⟨n, readNat_toString h, rfl⟩

/-- **Exactly the levels of the grammar are read.**  A value that stands for no level is refused: a text of digit signs
for the numeral that it is not, and any other one as an unknown level, shown in quotes as it came.  A number that is
written out, with blanks around it or none, is read as itself. -/
theorem readLevel_grammar (v : String) :
    (∀ n : Int, readLevel (.string v) = .ok n ↔ Denotes (upper (strip v)) n) ∧
    ((∀ n, ¬ Denotes (upper (strip v)) n) →
      (Signs (upper (strip v)) → ∃ e, readLevel (.string v) = .error (.ofNumeral (upper (strip v)) e)) ∧
      (¬ Signs (upper (strip v)) → readLevel (.string v) = .error (.unknown (quoted v)))) ∧
    ∀ (n : Nat) (pad pad' : String), n < 10 ^ 4300 → isBlankText pad = true → isBlankText pad' = true →
      readLevel (.string (pad ++ toString n ++ pad')) = .ok n := by
  refine ⟨fun n => readLevel_eq_ok_iff (.string v) n, fun h => readLevel_of_not_denotes (.string v) h, ?_⟩
  intro n pad pad' hlength hpad hpad'
  have hread : n < 10 ^ maxDigits → readLevel (.string (pad ++ toString n ++ pad')) = .ok n :=
    readLevel_padded hpad hpad'
  rw [maxDigits] at hread
  exact hread hlength

/-- A name that is none, and a number between blanks. -/
theorem readLevel_grammar_padded :
    (∀ n, ¬ Denotes (upper (strip " loud")) n) ∧ ¬ Signs (upper (strip " loud")) ∧
      readLevel (.string " loud") = .error (.unknown "' loud'") ∧
      15 < 10 ^ 4300 ∧ isBlankText "\t" = true ∧ isBlankText " \n" = true ∧
      readLevel (.string ("\t" ++ toString 15 ++ " \n")) = .ok 15 := by
  obtain ⟨hread, hrefused, hpadded⟩ := readLevel_grammar " loud"
  have hunread : ∀ n, readLevel (.string " loud") ≠ .ok n := by
    have herror : (readLevel (.string " loud")).isOk = false := by decide +kernel
    intro n hn
    rw [hn] at herror
    exact nomatch herror
  have hnone : ∀ n, ¬ Denotes (upper (strip " loud")) n := fun n h => hunread n ((hread n).2 h)
  have hsigns : ¬ Signs (upper (strip " loud")) := by
    rintro ⟨-, hall⟩
    exact absurd (hall 'L' (by decide +kernel)) (by decide)
  have hpower : ∀ k, 2 ≤ k → 15 < 10 ^ k := fun k hk =>
    calc 15 < 10 ^ 2 := by decide
      _ ≤ 10 ^ k := Nat.pow_le_pow_right (by decide) hk
  have hlength : 15 < 10 ^ 4300 := hpower 4300 (by decide)
  refine ⟨hnone, hsigns, ?_, hlength, by decide, by decide, ?_⟩
  · rw [(hrefused hnone).2 hsigns]
    decide +kernel
  · exact hpadded 15 "\t" " \n" hlength (by decide) (by decide)

/-- Digits of two scripts in one numeral. -/
example : readLevel (.string " ١5 ") = .ok 15 := by decide +kernel

end Log

end KitConsole
