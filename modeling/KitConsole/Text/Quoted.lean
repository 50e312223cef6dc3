import KitConsole.Text.Printable

/-!
# Quoted texts

* `quoted` — a text between quotes, as messages show a value: single quotes, or double ones if it holds single and
  no double quotes; backslashes, the quote itself, line ends, tabs and hidden characters are escaped.
* `hexDigits` — a number in a given count of lower-case hexadecimal digits; every sequence of digits is a number's.
-/

namespace KitConsole.Text

def hexChar (d : Nat) : Char := if d < 10 then Char.ofNat (48 + d) else Char.ofNat (87 + d)

/-- The last `width` hexadecimal digits of a number. -/
def hexDigits : Nat → Nat → List Char
  | 0, _ => []
  | width + 1, n => hexDigits width (n / 16) ++ [hexChar (n % 16)]

theorem exists_hexDigits_iff {width : Nat} {cs : List Char} :
    (∃ n, hexDigits width n = cs) ↔ cs.length = width ∧ ∀ c ∈ cs, ∃ d < 16, hexChar d = c := by
  induction width generalizing cs with
  | zero =>
    constructor
    · rintro ⟨n, rfl⟩
      simp [hexDigits]
    · rintro ⟨hlength, -⟩
      exact ⟨0, (List.length_eq_zero_iff.1 hlength).symm⟩
  | succ width ih =>
    constructor
    · rintro ⟨n, rfl⟩
      obtain ⟨hlength, hdigits⟩ := ih.1 ⟨n / 16, rfl⟩
      refine ⟨by simp [hexDigits, hlength], fun c hc => ?_⟩
      rcases List.mem_append.1 hc with hc | hc
      · exact hdigits c hc
      · exact ⟨n % 16, Nat.mod_lt n (by decide), (List.mem_singleton.1 hc).symm⟩
    · rintro ⟨hlength, hdigits⟩
      -- the last digit is the remainder, and what stands before it is the quotient
      rcases List.eq_nil_or_concat cs with rfl | ⟨front, c, rfl⟩
      · simp at hlength
      · obtain ⟨d, hd, rfl⟩ := hdigits c (by simp)
        obtain ⟨n, hn⟩ := ih.2 ⟨by simpa using hlength, fun x hx => hdigits x (by simp [hx])⟩
        have hquotient : (16 * n + d) / 16 = n := by omega
        have hremainder : (16 * n + d) % 16 = d := by omega
        exact ⟨16 * n + d, by rw [hexDigits, hquotient, hremainder, hn]; simp⟩

def quoteFor (cs : List Char) : Char := if '\'' ∈ cs ∧ '"' ∉ cs then '"' else '\''

/-- The code point in the shortest of the three escape forms that holds it. -/
def numberedEscape (n : Nat) : List Char :=
  if n < 0x100 then '\\' :: 'x' :: hexDigits 2 n
  else if n < 0x10000 then '\\' :: 'u' :: hexDigits 4 n
  else '\\' :: 'U' :: hexDigits 8 n

def quotedChar (quote c : Char) : List Char :=
  if c = quote ∨ c = '\\' then ['\\', c]
  else if c = '\n' then ['\\', 'n']
  else if c = '\r' then ['\\', 'r']
  else if c = '\t' then ['\\', 't']
  else if isPrintable c then [c]
  else numberedEscape c.toNat

def quotedChars (cs : List Char) : List Char :=
  let q := quoteFor cs
  q :: (cs.flatMap (quotedChar q) ++ [q])

def quoted (s : String) : String := .ofList (quotedChars s.toList)

end KitConsole.Text
