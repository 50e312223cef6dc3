import KitConsole.Json.Basic
import KitConsole.Text.Quoted

/-!
# Writing JSON text

* `Json.pretty` — a value over several lines, two spaces a level; empty lists and objects stay on one line.
* `Json.compact` — a value on one line.

Quotes, backslashes and control characters below U+0020 are escaped and all other characters are kept.
-/

namespace KitConsole.Json

def printedWords : Number.Binary64.Words := ⟨"NaN", "Infinity"⟩

def escapedChar (c : Char) : List Char :=
  if c = '"' ∨ c = '\\' then ['\\', c]
  else if c = '\x08' then ['\\', 'b']
  else if c = '\x0c' then ['\\', 'f']
  else if c = '\n' then ['\\', 'n']
  else if c = '\r' then ['\\', 'r']
  else if c = '\t' then ['\\', 't']
  else if c.toNat < 0x20 then '\\' :: 'u' :: Text.hexDigits 4 c.toNat
  else [c]

def stringText (s : String) : String := .ofList ('"' :: (s.toList.flatMap escapedChar ++ ['"']))

/-- The break before an item: a new line at the given depth, or nothing on one line. -/
def lineBreak : Option Nat → String
  | none => ""
  | some depth => .ofList ('\n' :: List.replicate (2 * depth) ' ')

mutual

/-- A value at a depth of indentation, or on one line. -/
def write (depth : Option Nat) : Json → String
  | null => "null"
  | bool b => if b then "true" else "false"
  | int n => Number.intText n
  | float x => x.text printedWords
  | string s => stringText s
  | list [] => "[]"
  | list (v :: vs) => "[" ++ writeItems (depth.map (· + 1)) (v :: vs) ++ lineBreak depth ++ "]"
  | object [] => "\x7b\x7d"
  | object (e :: es) => "\x7b" ++ writeMembers (depth.map (· + 1)) (e :: es) ++ lineBreak depth ++ "\x7d"

def writeItems (depth : Option Nat) : List Json → String
  | [] => ""
  | [v] => lineBreak depth ++ write depth v
  | v :: vs => lineBreak depth ++ write depth v ++ "," ++ writeItems depth vs

def writeMembers (depth : Option Nat) : List (String × Json) → String
  | [] => ""
  | [(k, v)] => lineBreak depth ++ stringText k ++ ": " ++ write depth v
  | (k, v) :: es => lineBreak depth ++ stringText k ++ ": " ++ write depth v ++ "," ++ writeMembers depth es

end

def pretty (v : Json) : String := write (some 0) v

def compact (v : Json) : String := write none v

end KitConsole.Json
