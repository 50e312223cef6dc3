import KitConsole.Number.Numeral
import KitConsole.Text.Blank
import KitConsole.Text.Word

/-!
# Hints for the user

* `Hint.extractStatus` — the first free-standing status code in a message: three digits, the first an ASCII one from
  1 to 5, with no word character on either side.
* `Hint.describeError` — the lines shown for a message: an explanation for 400 and 404, else the message itself.
-/

namespace KitConsole.Hint

open KitConsole.Text

def badRequest : List String :=
  ["The API indicated that the request was bad.",
   "It's likely because the entered Font Family ID was invalid,",
   "or that you've reached your maximum Kit limit."]

def notFound : List String :=
  ["The API indicated that it couldn't find the resource.",
   "Make sure that the Kit wasn't deleted while using this application."]

def startsWithWord : List Char → Bool
  | [] => false
  | c :: _ => isWord c

/-- The value of a status code made of three characters. -/
def codeOf? (a b c : Char) : Option Nat :=
  if '1' ≤ a ∧ a ≤ '5' then
    (digitValue? b).bind fun y => (digitValue? c).map fun z => (a.toNat - 48) * 100 + y * 10 + z
  else none

/-- The status code that the text starts with, if no word character follows it. -/
def codeAt? : List Char → Option Nat
  | a :: b :: c :: rest => if startsWithWord rest then none else codeOf? a b c
  | _ => none

/-- The first code of a text, given whether a word character stands before it. -/
def codeFrom? : Bool → List Char → Option Nat
  | _, [] => none
  | afterWord, c :: cs =>
    match if afterWord then none else codeAt? (c :: cs) with
    | some n => some n
    | none => codeFrom? (isWord c) cs

def extractStatus (message : String) : Option Nat := codeFrom? false message.toList

def describeError (message : String) : List String :=
  match extractStatus message with
  | some 400 => badRequest
  | some 404 => notFound
  | _ => if strip message = "" then [] else [strip message]

end KitConsole.Hint
