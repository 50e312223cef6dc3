import KitConsole.Log.Level
import KitConsole.Proofs.Numerals

/-!
# The log level of the environment

* `Misread` — a text of digit signs that is no numeral, for one of its signs or for its length.
* `readLevel_of_misread`, `readLevel_of_not_misread` — a value is refused for such a text with a fault of its own; any
  other value has a level, or is unknown.
* `askedLevel?` — the level that an environment asks for, where an unknown one asks for nothing.
* `configure_iff` — the root logger is set up with that level or the default, unless the environment holds such a text;
  then it is left alone, and the fault comes through.
-/

namespace KitConsole.Log

open KitConsole.Number KitConsole.Text

/-! ## values that look like a numeral -/

/-- The text is made of digit signs, but it cannot be read as a numeral. -/
structure Misread (text : String) : Prop where
  nonempty : text ≠ ""
  signs : ∀ c ∈ text.toList, isDigitSign c = true
  unread : (∃ c ∈ text.toList, isDecimal c = false) ∨ maxDigits < text.toList.length

/-- What is wrong with a text of digit signs. -/
def LevelFault.ofNumeral (text : String) : NumeralFault → LevelFault
  | .malformed => .notNumeral text
  | .tooLong digits => .tooLong digits

/-- The text of a value as it is compared with the names of levels. -/
def levelText (value : Json) : String := upper (strip value.text)

theorem isDigitSign_underscore : isDigitSign '_' = false := by decide

/-- A text of digit signs is no numeral if one of the signs is not a decimal digit, or if they are too many. -/
theorem exists_error_readNat_iff {cs : List Char} (hne : cs ≠ []) (hsigns : ∀ c ∈ cs, isDigitSign c = true) :
    (∃ e, readNat cs = .error e) ↔ (∃ c ∈ cs, isDecimal c = false) ∨ maxDigits < cs.length := by
  by_cases hdecimal : ∀ c ∈ cs, isDecimal c = true
  · have hnone : ¬ ∃ c ∈ cs, isDecimal c = false := by
      rintro ⟨c, hc, hfalse⟩
      rw [hdecimal c hc] at hfalse
      exact nomatch hfalse
    rw [readNat_of_decimal hdecimal hne]
    by_cases hlong : cs.length ≤ maxDigits
    · simp [hlong, hnone, Nat.not_lt.2 hlong]
    · simp [hlong, Nat.not_le.1 hlong]
  · obtain ⟨c, hc, hfalse⟩ : ∃ c ∈ cs, isDecimal c = false := by simpa using hdecimal
    have hplace : c ≠ '_' := by
      rintro rfl
      exact absurd (hsigns '_' hc) (by simp [isDigitSign_underscore])
    exact iff_of_true (readNat_of_not_decimal hc hfalse hplace) (.inl ⟨c, hc, hfalse⟩)

variable {value : Json}

theorem readLevel_of_signs (hne : levelText value ≠ "")
    (hsigns : ∀ c ∈ (levelText value).toList, isDigitSign c = true) :
    readLevel value = ((readNat (levelText value).toList).map Int.ofNat).mapError (.ofNumeral (levelText value)) := by
  unfold levelText at *
  simp only [readLevel]
  rw [if_pos (by simpa [hne] using hsigns)]
  rcases readNat (upper (strip value.text)).toList with (_ | _) | _ <;> rfl

/-- Any other text has to be a name. -/
theorem readLevel_of_not_signs (h : ¬ (levelText value ≠ "" ∧ ∀ c ∈ (levelText value).toList, isDigitSign c = true)) :
    readLevel value = (levelNames.lookup (levelText value)).elim (.error (.unknown value.inline)) .ok := by
  unfold levelText at *
  simp only [readLevel]
  rw [if_neg (by simpa using h)]
  cases levelNames.lookup (upper (strip value.text)) <;> rfl

theorem readLevel_of_misread (h : Misread (levelText value)) :
    ∃ e, readLevel value = .error (.ofNumeral (levelText value) e) := by
  have hne : (levelText value).toList ≠ [] := by simpa using h.nonempty
  obtain ⟨e, he⟩ := (exists_error_readNat_iff hne h.signs).2 h.unread
  exact ⟨e, by rw [readLevel_of_signs h.nonempty h.signs, he]; rfl⟩

theorem readLevel_of_not_misread (h : ¬ Misread (levelText value)) :
    (∃ n, readLevel value = .ok n) ∨ readLevel value = .error (.unknown value.inline) := by
  by_cases hsigns : levelText value ≠ "" ∧ ∀ c ∈ (levelText value).toList, isDigitSign c = true
  · have hne : (levelText value).toList ≠ [] := by simpa using hsigns.1
    rw [readLevel_of_signs hsigns.1 hsigns.2]
    rcases hread : readNat (levelText value).toList with e | n
    · exact absurd ⟨hsigns.1, hsigns.2, (exists_error_readNat_iff hne hsigns.2).1 ⟨e, hread⟩⟩ h
    · exact .inl ⟨n, rfl⟩
  · rw [readLevel_of_not_signs hsigns]
    cases levelNames.lookup (levelText value) with
    | none => exact .inr rfl
    | some n => exact .inl ⟨n, rfl⟩

/-! ## the environment -/

/-- What the environment has for the level. -/
def levelRequest (env : Environment) : String := strip (env.text levelVariable)

/-- The level that the environment asks for: the one it names, else the lowest one that is used, if it asks for that. -/
def askedLevel? (env : Environment) : Option Int :=
  let named := if levelRequest env = "" then none else (readLevel (.string (levelRequest env))).toOption
  let debug := if lower (strip (env.text debugVariable)) ∈ ["1", "true", "yes", "on"] then some 10 else none
  named.or debug

theorem levelText_levelRequest (env : Environment) :
    levelText (.string (levelRequest env)) = upper (levelRequest env) := congrArg upper (strip_strip _)

variable (env : Environment)

theorem requestedLevel_of_blank (h : levelRequest env = "") : requestedLevel env = .ok (debugRequested env) := by
  unfold requestedLevel
  exact if_pos h

variable {env}

theorem requestedLevel_of_ok {n : Int} (hraw : levelRequest env ≠ "")
    (h : readLevel (.string (levelRequest env)) = .ok n) : requestedLevel env = .ok (some n) := by
  unfold levelRequest at *
  rw [requestedLevel, if_neg hraw, h]

/-- An unknown name is the one fault of a value that is caught. -/
theorem requestedLevel_of_unknown {shown : String} (hraw : levelRequest env ≠ "")
    (h : readLevel (.string (levelRequest env)) = .error (.unknown shown)) :
    requestedLevel env = .ok (debugRequested env) := by
  unfold levelRequest at *
  rw [requestedLevel, if_neg hraw, h]

theorem requestedLevel_of_numeral {text : String} {e : NumeralFault} (hraw : levelRequest env ≠ "")
    (h : readLevel (.string (levelRequest env)) = .error (.ofNumeral text e)) :
    requestedLevel env = .error (.ofNumeral text e) := by
  unfold levelRequest at *
  rw [requestedLevel, if_neg hraw, h]
  cases e <;> rfl

variable (env)

/-- The one kind of text that the environment may not hold: it is taken for a numeral, and the fault is not caught. -/
theorem requestedLevel_of_misread (h : Misread (upper (levelRequest env))) :
    ∃ e, requestedLevel env = .error (.ofNumeral (upper (levelRequest env)) e) := by
  have hraw : levelRequest env ≠ "" := by
    intro hempty
    rw [hempty] at h
    exact h.nonempty rfl
  rw [← levelText_levelRequest] at h ⊢
  obtain ⟨e, he⟩ := readLevel_of_misread h
  exact ⟨e, requestedLevel_of_numeral hraw he⟩

/-- Whatever else it holds is a level, or counts for nothing. -/
theorem requestedLevel_of_not_misread (h : ¬ Misread (upper (levelRequest env))) :
    requestedLevel env = .ok (askedLevel? env) := by
  have hasked : askedLevel? env =
      (if levelRequest env = "" then none else (readLevel (.string (levelRequest env))).toOption).or
        (debugRequested env) := rfl
  rw [hasked]
  by_cases hraw : levelRequest env = ""
  · rw [requestedLevel_of_blank env hraw, if_pos hraw, Option.none_or]
  · rw [← levelText_levelRequest] at h
    rw [if_neg hraw]
    rcases readLevel_of_not_misread h with ⟨n, hn⟩ | hunknown
    · rw [requestedLevel_of_ok hraw hn, hn]
      rfl
    · rw [requestedLevel_of_unknown hraw hunknown, hunknown, Except.toOption, Option.none_or]

theorem configure_of_requested {default : Int} {requested : Option Int} (h : requestedLevel env = .ok requested)
    (root : Root) : root.configure (some default) env =
      (.ok (requested.getD default), (root.prepare (requested.getD default)).setLevel (requested.getD default)) := by
  rw [Root.configure, threshold?_some, threshold, h]
  rfl

/-- **The environment sets the log level**: it is the one that it asks for, else the default one, and the root logger is
left at it. Only a text that looks like a numeral and is none stops that, with a fault that is not caught. -/
theorem configure_iff (default : Int) (root : Root) :
    (Misread (upper (levelRequest env)) ∧ ∃ e,
      requestedLevel env = .error (.ofNumeral (upper (levelRequest env)) e) ∧
      root.configure (some default) env = (.error (.ofNumeral (upper (levelRequest env)) e), root)) ∨
    (¬ Misread (upper (levelRequest env)) ∧ requestedLevel env = .ok (askedLevel? env) ∧ ∃ root',
      root.configure (some default) env = (.ok ((askedLevel? env).getD default), root') ∧
      root'.level = (askedLevel? env).getD default) := by
  by_cases h : Misread (upper (levelRequest env))
  · obtain ⟨e, he⟩ := requestedLevel_of_misread env h
    refine .inl ⟨h, e, he, ?_⟩
    rw [Root.configure, threshold?_some, threshold, he]
    rfl
  · have hasked := requestedLevel_of_not_misread env h
    exact .inr ⟨h, hasked, _, configure_of_requested env hasked root, rfl⟩

/-- A superscript two, which no other part of the program takes for a digit, stops the program at its start. -/
theorem configure_superscript :
    requestedLevel [("KITINFO_LOG_LEVEL", "²")] = .error (.notNumeral "²") ∧
      Root.configure (some 30) [("KITINFO_LOG_LEVEL", "²")] {} = (.error (.notNumeral "²"), {}) := by
  decide +kernel

end KitConsole.Log
