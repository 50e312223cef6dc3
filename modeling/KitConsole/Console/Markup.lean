/-!
# Console markup

* `Markup.escape` — a text in which nothing is a style tag.
* `Markup.render` — the text that markup shows: style tags vanish, an escaped bracket stands for itself.

A style tag is a bracket that opens with a small letter, `#`, `/` or `@` and closes before another one opens.
-/

namespace KitConsole.Markup

def isTagStart (c : Char) : Bool := ('a' ≤ c && c ≤ 'z') || c == '#' || c == '/' || c == '@'

/-- A bracket closes before another one opens. -/
def closes : List Char → Bool
  | [] => false
  | c :: cs => if c = ']' then true else if c = '[' then false else closes cs

/-- What follows an opening bracket makes it a style tag. -/
def opensTag : List Char → Bool
  | [] => false
  | c :: cs => isTagStart c && closes cs

def backslashes (n : Nat) : List Char := List.replicate n '\\'

/-- The text with tags escaped, given the number of backslashes just before it. -/
def escapeFrom : Nat → List Char → List Char
  | _, [] => []
  | n, c :: cs =>
    if c = '\\' then c :: escapeFrom (n + 1) cs
    else if c = '[' ∧ opensTag cs then backslashes (n + 1) ++ c :: escapeFrom 0 cs
    else c :: escapeFrom 0 cs

/-- A single backslash at the end is doubled, so that it does not escape what is put behind it. -/
def closeEnd (cs : List Char) : List Char :=
  match cs.reverse with
  | '\\' :: '\\' :: _ => cs
  | '\\' :: _ => cs ++ ['\\']
  | _ => cs

def escapeChars (cs : List Char) : List Char := closeEnd (escapeFrom 0 cs)

/-- The shown text, given whether a tag is being skipped and the number of backslashes just before.  Before a tag
two backslashes stand for one, and one more makes the tag plain text; before any other bracket one backslash is
dropped. -/
def renderFrom : Bool → Nat → List Char → List Char
  | true, _, [] => []
  | true, _, c :: cs => renderFrom (c ≠ ']') 0 cs
  | false, n, [] => backslashes n
  | false, n, c :: cs =>
    if c = '\\' then renderFrom false (n + 1) cs
    else if c = '[' then
      if opensTag cs then
        if n % 2 = 0 then backslashes (n / 2) ++ renderFrom true 0 cs
        else backslashes (n / 2) ++ c :: renderFrom false 0 cs
      else backslashes (n - 1) ++ c :: renderFrom false 0 cs
    else backslashes n ++ c :: renderFrom false 0 cs

/-- Markup without a bracket is plain text. -/
def renderChars (cs : List Char) : List Char := if '[' ∈ cs then renderFrom false 0 cs else cs

def escape (text : String) : String := .ofList (escapeChars text.toList)

def render (markup : String) : String := .ofList (renderChars markup.toList)

end KitConsole.Markup
