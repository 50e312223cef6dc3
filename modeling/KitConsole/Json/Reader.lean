import KitConsole.Json.Basic

/-!
# Reading JSON text

* `Json.read?` — the value of a text: RFC 8259 with blanks around it, and beside its numbers the words `NaN`,
  `Infinity` and `-Infinity`.  A key that occurs again keeps its first place and its last value, a number with a
  fraction or an exponent is a double, and an integer may have up to `Number.maxDigits` digits.
* `nodup_keys_of_read?` — an object that is read holds no key twice.
-/

namespace KitConsole.Json

open KitConsole.Number

def isSpace (c : Char) : Bool := c == ' ' || c == '\t' || c == '\n' || c == '\r'

def skipSpace (cs : List Char) : List Char := cs.dropWhile isSpace

/-! ## strings -/

def hexValue? (c : Char) : Option Nat :=
  if '0' ≤ c ∧ c ≤ '9' then some (c.toNat - 48)
  else if 'a' ≤ c ∧ c ≤ 'f' then some (c.toNat - 87)
  else if 'A' ≤ c ∧ c ≤ 'F' then some (c.toNat - 55)
  else none

def hexUnit? (a b c d : Char) : Option Nat := do
  return ((← hexValue? a) * 16 + (← hexValue? b)) * 256 + (← hexValue? c) * 16 + (← hexValue? d)

def isHighUnit (u : Nat) : Bool := 0xd800 ≤ u && u ≤ 0xdbff

def isLowUnit (u : Nat) : Bool := 0xdc00 ≤ u && u ≤ 0xdfff

/-- The characters of a sequence of code points in which a pair of escapes may stand for one character; half of a
pair that stands alone is no character and is replaced. -/
def joinUnits : List Nat → List Char
  | [] => []
  | [u] => [loneUnit u]
  | u :: v :: us =>
    if isHighUnit u && isLowUnit v then
      Char.ofNat (0x10000 + (u - 0xd800) * 0x400 + (v - 0xdc00)) :: joinUnits us
    else loneUnit u :: joinUnits (v :: us)
where
  loneUnit (u : Nat) : Char := if isHighUnit u || isLowUnit u then '\uFFFD' else Char.ofNat u

def shortEscape? : Char → Option Char
  | '"' => some '"'
  | '\\' => some '\\'
  | '/' => some '/'
  | 'b' => some '\x08'
  | 'f' => some '\x0c'
  | 'n' => some '\n'
  | 'r' => some '\r'
  | 't' => some '\t'
  | _ => none

/-- The code points of a string after its opening quote, and what follows the closing one. -/
def stringTail : List Char → Option (List Nat × List Char)
  | [] => none
  | '"' :: rest => some ([], rest)
  | '\\' :: 'u' :: a :: b :: c :: d :: rest =>
    (hexUnit? a b c d).bind fun u => (stringTail rest).map fun r => (u :: r.1, r.2)
  | '\\' :: c :: rest => (shortEscape? c).bind fun x => (stringTail rest).map fun r => (x.toNat :: r.1, r.2)
  | c :: rest => if c.toNat < 0x20 then none else (stringTail rest).map fun r => (c.toNat :: r.1, r.2)

def string? (cs : List Char) : Option (String × List Char) :=
  (stringTail cs).map fun r => (.ofList (joinUnits r.1), r.2)

/-! ## numbers -/

def isAsciiDigit (c : Char) : Bool := '0' ≤ c && c ≤ '9'

/-- The leading ASCII digits of a text and the rest. -/
def digitRun (cs : List Char) : List Nat × List Char :=
  ((cs.takeWhile isAsciiDigit).map fun c => c.toNat - 48, cs.dropWhile isAsciiDigit)

/-- The digits before the point: a zero stands alone. -/
def wholePart : List Char → List Nat × List Char
  | '0' :: rest => ([0], rest)
  | cs => digitRun cs

/-- The digits after a point, none where no digit follows it. -/
def fractionPart : List Char → List Nat × List Char
  | '.' :: rest =>
    match digitRun rest with
    | ([], _) => ([], '.' :: rest)
    | r => r
  | cs => ([], cs)

def exponentDigits (negative : Bool) (cs : List Char) : Option (Int × List Char) :=
  match digitRun cs with
  | ([], _) => none
  | (ds, rest) => some (if negative then -(ofPlaces ds : Int) else ofPlaces ds, rest)

/-- The power of ten after an exponent mark, if digits follow the mark. -/
def exponentPart? : List Char → Option (Int × List Char)
  | c :: rest =>
    if c == 'e' || c == 'E' then
      match rest with
      | '-' :: r => exponentDigits true r
      | '+' :: r => exponentDigits false r
      | r => exponentDigits false r
    else none
  | [] => none

/-- The number after an optional minus sign. -/
def unsignedNumber? (negative : Bool) (cs : List Char) : Option (Json × List Char) :=
  let (whole, rest) := wholePart cs
  if whole.isEmpty then none
  else
    let (fraction, rest) := fractionPart rest
    match exponentPart? rest with
    | some (power, rest) =>
      some (.float (.ofDecimal negative (ofPlaces (whole ++ fraction)) (power - fraction.length)), rest)
    | none =>
      if fraction.isEmpty then
        if maxDigits < whole.length then none
        else some (.int (if negative then -(ofPlaces whole : Int) else ofPlaces whole), rest)
      else some (.float (.ofDecimal negative (ofPlaces (whole ++ fraction)) (-(fraction.length : Int))), rest)

/-! ## values -/

/-- The words that are values. -/
def word? : List Char → Option (Json × List Char)
  | 'n' :: 'u' :: 'l' :: 'l' :: rest => some (.null, rest)
  | 't' :: 'r' :: 'u' :: 'e' :: rest => some (.bool true, rest)
  | 'f' :: 'a' :: 'l' :: 's' :: 'e' :: rest => some (.bool false, rest)
  | 'N' :: 'a' :: 'N' :: rest => some (.float .nan, rest)
  | 'I' :: 'n' :: 'f' :: 'i' :: 'n' :: 'i' :: 't' :: 'y' :: rest => some (.float (.infinite false), rest)
  | '-' :: 'I' :: 'n' :: 'f' :: 'i' :: 'n' :: 'i' :: 't' :: 'y' :: rest => some (.float (.infinite true), rest)
  | _ => none

/-- A value that holds no other one. -/
def scalar? (cs : List Char) : Option (Json × List Char) :=
  match word? cs with
  | some r => some r
  | none =>
    match cs with
    | '"' :: rest => (string? rest).map fun r => (.string r.1, r.2)
    | '-' :: rest => unsignedNumber? true rest
    | cs => unsignedNumber? false cs

mutual

/-- The value at the start of a text; `fuel` exceeds twice the length of the text. -/
def valueAt : Nat → List Char → Option (Json × List Char)
  | 0, _ => none
  | fuel + 1, '[' :: rest =>
    match skipSpace rest with
    | ']' :: rest => some (.list [], rest)
    | rest => (itemsAt fuel rest).map fun r => (.list r.1, r.2)
  | fuel + 1, '{' :: rest =>
    match skipSpace rest with
    | '}' :: rest => some (.object [], rest)
    | rest => (membersAt fuel rest).map fun r => (.object (Entries.ofPairs r.1), r.2)
  | _ + 1, cs => scalar? cs

/-- The items up to the closing bracket. -/
def itemsAt : Nat → List Char → Option (List Json × List Char)
  | 0, _ => none
  | fuel + 1, cs =>
    (valueAt fuel cs).bind fun v =>
      match skipSpace v.2 with
      | ',' :: rest => (itemsAt fuel (skipSpace rest)).map fun r => (v.1 :: r.1, r.2)
      | ']' :: rest => some ([v.1], rest)
      | _ => none

/-- The members up to the closing brace. -/
def membersAt : Nat → List Char → Option (List (String × Json) × List Char)
  | 0, _ => none
  | fuel + 1, '"' :: cs =>
    (string? cs).bind fun k =>
      match skipSpace k.2 with
      | ':' :: rest =>
        (valueAt fuel (skipSpace rest)).bind fun v =>
          match skipSpace v.2 with
          | ',' :: rest => (membersAt fuel (skipSpace rest)).map fun r => ((k.1, v.1) :: r.1, r.2)
          | '}' :: rest => some ([(k.1, v.1)], rest)
          | _ => none
      | _ => none
  | _ + 1, _ => none

end

/-- The value of a whole text.  Values may be nested to any depth; no limit of the stack is modelled. -/
def read? (text : String) : Option Json :=
  let cs := skipSpace text.toList
  match valueAt (2 * cs.length + 2) cs with
  | some (v, rest) => if (skipSpace rest).isEmpty then some v else none
  | none => none

/-! ## objects -/

theorem unsignedNumber?_ne_object (negative : Bool) (cs : List Char) (es : Entries Json) (rest : List Char) :
    unsignedNumber? negative cs ≠ some (.object es, rest) := by
  rcases hwhole : wholePart cs with ⟨whole, cs'⟩
  rcases hfraction : fractionPart cs' with ⟨fraction, cs''⟩
  simp only [unsignedNumber?, hwhole, hfraction]
  rcases exponentPart? cs'' with _ | ⟨power, r⟩
  · by_cases hlong : maxDigits < whole.length <;> cases whole.isEmpty <;> cases fraction.isEmpty <;> simp [hlong]
  · cases whole.isEmpty <;> simp

theorem word?_ne_object (cs : List Char) (es : Entries Json) (rest : List Char) : word? cs ≠ some (.object es, rest) := by
  fun_cases word? cs <;> simp

theorem scalar?_ne_object (cs : List Char) (es : Entries Json) (rest : List Char) :
    scalar? cs ≠ some (.object es, rest) := by
  intro h
  unfold scalar? at h
  split at h
  · rename_i hword
    exact word?_ne_object cs es rest (hword.trans h)
  · split at h
    · simp at h
    · exact unsignedNumber?_ne_object _ _ _ _ h
    · exact unsignedNumber?_ne_object _ _ _ _ h

theorem nodup_keys_of_valueAt {fuel : Nat} {cs : List Char} {es : Entries Json} {rest : List Char}
    (h : valueAt fuel cs = some (.object es, rest)) : es.keys.Nodup := by
  unfold valueAt at h
  split at h
  · simp at h
  · split at h <;> simp at h
  · split at h
    · obtain ⟨hes, -⟩ := Prod.mk.inj (Option.some.inj h)
      rw [← Json.object.inj hes]
      simp [Entries.keys]
    · obtain ⟨r, -, hr⟩ := Option.map_eq_some_iff.1 h
      obtain ⟨hes, -⟩ := Prod.mk.inj hr
      rw [← Json.object.inj hes]
      exact Entries.nodup_keys_ofPairs r.1
  · exact absurd h (scalar?_ne_object _ _ _)

/-- An object that is read holds no key twice. -/
theorem nodup_keys_of_read? {text : String} {es : Entries Json} (h : read? text = some (.object es)) : es.keys.Nodup := by
  simp only [read?] at h
  split at h
  · rename_i v rest hvalue
    split at h
    · obtain rfl := Option.some.inj h
      exact nodup_keys_of_valueAt hvalue
    · simp at h
  · simp at h

end KitConsole.Json
