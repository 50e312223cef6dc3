import KitConsole.Number.Numeral

/-!
# Double precision numbers, exactly

* `Binary64` — not a number, an infinity, or a signed integer times a power of two.
* `Binary64.ofDecimal` — the double nearest to a decimal, ties to the even significand; beyond the range, infinity.
* `Binary64.shortest` — the fewest decimal digits that read back as the same double, the nearest of those.
* `Binary64.text` — positional from 10⁻⁴ up to 10¹⁶ and always with a fraction, else with a signed exponent of two
  digits or more.
-/

namespace KitConsole.Number

/-- A finite value is `significand · 2 ^ exponent` with `significand < 2 ^ 53` and `-1074 ≤ exponent`, and
`2 ^ 52 ≤ significand` unless the exponent is the least one. -/
inductive Binary64
  | nan
  | infinite (negative : Bool)
  | finite (negative : Bool) (significand : Nat) (exponent : Int)
  deriving DecidableEq, Repr, Inhabited

namespace Binary64

def minExponent : Int := -1074

def maxExponent : Int := 971

def zero (negative : Bool) : Binary64 := .finite negative 0 minExponent

def isZero : Binary64 → Bool
  | .finite _ m _ => m == 0
  | _ => false

/-! ## from decimals -/

/-- The quotient rounded to the nearest integer, a half to the even one. -/
def roundDiv (num den : Nat) : Nat :=
  let q := num / den
  let r := 2 * (num % den)
  if r < den then q else if den < r then q + 1 else if q % 2 = 0 then q else q + 1

/-- `n · b ^ e` as a fraction of natural numbers. -/
def scaled (n b : Nat) (e : Int) : Nat × Nat := (n * b.pow e.toNat, b.pow (-e).toNat)

/-- The double nearest to the positive fraction `num / den`. -/
def ofFraction (negative : Bool) (num den : Nat) : Binary64 :=
  let high : Int := (num.log2 : Int) - (den.log2 : Int) - 52
  let quotient (e : Int) : Nat := roundDiv (num * Nat.pow 2 (-e).toNat) (den * Nat.pow 2 e.toNat)
  let low := max (high - 1) minExponent
  let e := if quotient low ≤ Nat.pow 2 53 then low else low + 1
  let m := quotient e
  let (m, e) := if m = Nat.pow 2 53 then (Nat.pow 2 52, e + 1) else (m, e)
  if maxExponent < e then .infinite negative else .finite negative m e

/-- The double nearest to `digits · 10 ^ exponent`; an exponent far outside the range is not computed with. -/
def ofDecimal (negative : Bool) (digits : Nat) (exponent : Int) : Binary64 :=
  if digits = 0 then zero negative
  else
    let places : Int := (toString digits).length + exponent
    if 400 < places then .infinite negative
    else if places < -400 then zero negative
    else
      let f := scaled digits 10 exponent
      ofFraction negative f.1 f.2

/-! ## to decimals -/

/-- The bounds of the reals that round to `m · 2 ^ e`, in units of `2 ^ (e - 2)`.  Below a power of two the
neighbour is half as far. -/
def interval (m : Nat) (e : Int) : Nat × Nat :=
  (if m = Nat.pow 2 52 ∧ minExponent < e then 4 * m - 1 else 4 * m - 2, 4 * m + 2)

/-- `digits · 10 ^ k` rounds to `m · 2 ^ e`; the ends of the interval belong to an even significand. -/
def readsBack (m : Nat) (e : Int) (digits : Nat) (k : Int) : Bool :=
  let (lo, hi) := interval m e
  let d := digits * Nat.pow 10 k.toNat * Nat.pow 2 (2 - e).toNat
  let unit := Nat.pow 2 (e - 2).toNat * Nat.pow 10 (-k).toNat
  if m % 2 = 0 then lo * unit ≤ d && d ≤ hi * unit else lo * unit < d && d < hi * unit

/-- The digits of `m · 2 ^ e` on the grid of `10 ^ k`, when one of its two neighbours there reads back: the nearer
one, of two at the same distance the even one. -/
def onGrid? (m : Nat) (e k : Int) : Option Nat :=
  let num := m * Nat.pow 2 e.toNat * Nat.pow 10 (-k).toNat
  let den := Nat.pow 2 (-e).toNat * Nat.pow 10 k.toNat
  let below := num / den
  let above := below + 1
  match readsBack m e below k, readsBack m e above k with
  | true, true => some (roundDiv num den)
  | true, false => some below
  | false, true => some above
  | false, false => none

/-- The greatest `p` with `10 ^ p ≤ num / den`, at least `low`; `steps` bounds the search. -/
def decimalOrder (num den : Nat) (low : Int) : Nat → Int
  | 0 => low
  | steps + 1 =>
    let p := low + 1
    if den * Nat.pow 10 p.toNat ≤ num * Nat.pow 10 (-p).toNat then decimalOrder num den p steps else low

/-- The first grid among `k, k - 1, …` with a hit. -/
def firstGrid (m : Nat) (e k : Int) : Nat → Nat × Int
  | 0 => (0, k)
  | steps + 1 =>
    match onGrid? m e k with
    | some d => if d = 0 then firstGrid m e (k - 1) steps else (d, k)
    | none => firstGrid m e (k - 1) steps

/-- The shortest digits of `m · 2 ^ e`, `0 < m`, and the power of ten that they count. -/
def shortest (m : Nat) (e : Int) : Nat × Int :=
  let f := scaled m 2 e
  let guess : Int := (((f.1.log2 : Int) - (f.2.log2 : Int)) * 30103) / 100000 - 2
  let order := decimalOrder f.1 f.2 guess 5
  firstGrid m e (order + 1) 20

/-- The words for the values that are no finite number. -/
structure Words where
  nan : String
  infinity : String

/-- Digits and the place of the point after the first `point` of them, positional or with an exponent. -/
def layout (digits : List Char) (point : Int) : List Char :=
  let n : Int := digits.length
  if -4 < point && point ≤ 16 then
    if point ≤ 0 then '0' :: '.' :: (List.replicate (-point).toNat '0' ++ digits)
    else if n ≤ point then digits ++ List.replicate (point - n).toNat '0' ++ ['.', '0']
    else digits.take point.toNat ++ '.' :: digits.drop point.toNat
  else
    let e := point - 1
    let power := (toString e.natAbs).toList
    let mantissa :=
      match digits with
      | d :: d' :: ds => d :: '.' :: d' :: ds
      | ds => ds
    mantissa ++ 'e' :: (if e < 0 then '-' else '+') :: (if power.length < 2 then '0' :: power else power)

def trimZeros (digits : List Char) : List Char := (digits.reverse.dropWhile (· == '0')).reverse

def text (w : Words) : Binary64 → String
  | .nan => w.nan
  | .infinite negative => if negative then "-" ++ w.infinity else w.infinity
  | .finite negative m e =>
    let body :=
      if m = 0 then ['0', '.', '0']
      else
        let (d, k) := shortest m e
        let digits := (toString d).toList
        layout (trimZeros digits) (digits.length + k)
    .ofList (if negative then '-' :: body else body)

end Binary64

end KitConsole.Number
