import KitConsole.Json.Basic
import KitConsole.Text.Quoted

/-!
# The text of a value inside a sentence

* `Json.inline` — a value on one line, strings in quotes, with capitalised words for null and the Booleans; messages
  show a rejected value this way.
* `Json.text` — the same, but a string is its own text; kit ids, names and form values are written this way.
-/

namespace KitConsole.Json

def inlineWords : Number.Binary64.Words := ⟨"nan", "inf"⟩

mutual

def inline : Json → String
  | null => "None"
  | bool b => if b then "True" else "False"
  | int n => Number.intText n
  | float x => x.text inlineWords
  | string s => Text.quoted s
  | list items => "[" ++ inlineItems items ++ "]"
  | object entries => "\x7b" ++ inlineEntries entries ++ "\x7d"

def inlineItems : List Json → String
  | [] => ""
  | [v] => inline v
  | v :: vs => inline v ++ ", " ++ inlineItems vs

def inlineEntries : List (String × Json) → String
  | [] => ""
  | [(k, v)] => Text.quoted k ++ ": " ++ inline v
  | (k, v) :: es => Text.quoted k ++ ": " ++ inline v ++ ", " ++ inlineEntries es

end

def text : Json → String
  | string s => s
  | v => inline v

end KitConsole.Json
