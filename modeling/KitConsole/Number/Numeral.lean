import KitConsole.Text.Digit

/-!
# Integer numerals

* `readInt` — the value of a signed decimal numeral: digits of any script, a single underscore allowed between two
  digits, at most `maxDigits` digits; nothing else, blanks included.
* `intText` — the numeral of an integer, with a minus sign where it is negative.
-/

namespace KitConsole.Number

open KitConsole.Text

/-- Longer numerals are refused. -/
def maxDigits : Nat := 4300

inductive NumeralFault
  | malformed
  | tooLong (digits : Nat)
  deriving DecidableEq, Repr

/-- The digits of an unsigned numeral in order. -/
def places? : List Char → Option (List Nat)
  | [] => none
  | [c] => (digitValue? c).map fun d => [d]
  | c :: '_' :: cs => (digitValue? c).bind fun d => (places? cs).map (d :: ·)
  | c :: cs => (digitValue? c).bind fun d => (places? cs).map (d :: ·)

/-- The number with the given decimal places, the highest first. -/
def ofPlaces (ds : List Nat) : Nat := ds.foldl (fun n d => 10 * n + d) 0

def readNat (cs : List Char) : Except NumeralFault Nat :=
  let leading := (cs.takeWhile isDecimal).length
  if maxDigits < leading then .error (.tooLong leading)
  else
    match places? cs with
    | none => .error .malformed
    | some ds => if maxDigits < ds.length then .error (.tooLong ds.length) else .ok (ofPlaces ds)

def readInt : List Char → Except NumeralFault Int
  | '-' :: cs => (readNat cs).map fun n => -(n : Int)
  | '+' :: cs => (readNat cs).map fun n => (n : Int)
  | cs => (readNat cs).map fun n => (n : Int)

/-- Integers of any length are written out; none that is read has more than `maxDigits` digits. -/
def intText (n : Int) : String := toString n

end KitConsole.Number
