import KitConsole.Console.Markup
import KitConsole.Console.TabStops
import KitConsole.Dialogue
import KitConsole.Hint
import KitConsole.Json.Printer
import KitConsole.Text.LetterCase

/-!
# The console

* `Console` — the lines still to be read and the text printed so far.
* `Console.choose`, `Console.confirm`, `Console.ask` — an entry of a menu, a yes or no, a line of text.
* `Console.collectFields` — the fields of a kit, asked for one by one.
* `Console.notify` — notices and results.
* `Console.surface` — the console as the user's side of a session.
-/

namespace KitConsole

/-- How the end of the input and empty lines are taken: a stream gives the default answer at its end, a terminal
gives it for an empty line and has no answer at its end. -/
inductive Console.Source
  | stream
  | terminal
  deriving DecidableEq, Repr

structure Console where
  lines : List String
  source : Console.Source := .stream
  output : String := ""
  deriving DecidableEq, Repr

namespace Console

/-- The lines of a text, without their ends, after a line that has begun; a last line need not be ended. -/
def linesFrom (begun : List Char) : List Char → List String
  | [] => if begun.isEmpty then [] else [.ofList begun.reverse]
  | c :: cs => if c = '\n' then .ofList begun.reverse :: linesFrom [] cs else linesFrom (c :: begun) cs

def ofText (source : Source) (text : String) : Console := { lines := linesFrom [] text.toList, source }

abbrev Act := ExceptT Fault (StateM Console)

/-! ## output -/

/-- Bell, backspace and the vertical movements are not printed. -/
def isDropped (c : Char) : Bool := c == '\x07' || c == '\x08' || c == '\x0b' || c == '\x0c' || c == '\r'

/-- What is seen of a text that is printed at the start of a line. -/
def shown (text : String) : String := TabStops.expand (.ofList (text.toList.filter (!isDropped ·)))

def put (text : String) : Act Unit := modify fun c => { c with output := c.output ++ shown text }

/-- A text as it is. -/
def say (text : String) : Act Unit := put (text ++ "\n")

/-- A text between two style tags. -/
def styled (opening closing text : String) : String := Markup.render (opening ++ Markup.escape text ++ closing)

def error (text : String) : Act Unit := say (styled "[bold red]" "[/bold red]" text)

def ok (text : String) : Act Unit := say (styled "[green]" "[/green]" text)

def printJson (value : Json) : Act Unit := say value.pretty

/-! ## input -/

/-- The next line without the blanks around it; nothing if the default answer is to be taken. -/
def readAnswer : Act (Option String) := do
  let c ← get
  match c.lines, c.source with
  | [], .stream => return none
  | [], .terminal => throw .endOfInput
  | line :: rest, source =>
    set { c with lines := rest }
    return if source = .terminal ∧ line = "" then none else some (Text.strip line)

def ask (prompt : String) : Act String := do
  put (Markup.render (Markup.escape prompt) ++ ": ")
  return (← readAnswer).getD ""

/-! ## menus -/

/-- The position whose number, counted from one, is written in the answer. -/
def position? (n : Nat) (answer : String) : Option (Fin n) :=
  (List.finRange n).find? fun i => toString (i.val + 1) = answer

def choicePrompt (n : Nat) : String :=
  "Choice [" ++ "/".intercalate ((List.range n).map fun i => toString (i + 1)) ++ "] (1): "

/-- The first line that is the number of a position, asked for again after every other one. -/
def choosePosition (n : Nat) (first : Fin n) : (lines : List String) → Act (Fin n)
  | [] => do
    put (choicePrompt n)
    let _ ← readAnswer
    return first
  | _ :: rest => do
    put (choicePrompt n)
    match ← readAnswer with
    | none => return first
    | some answer =>
      match position? n answer with
      | some i => return i
      | none =>
        say "Please select one of the available options"
        choosePosition n first rest

def printLabels : (index : Nat) → List String → Act Unit
  | _, [] => return ()
  | index, label :: labels => do
    say (styled ("  [cyan]" ++ toString index ++ "[/cyan]) ") "" label)
    printLabels (index + 1) labels

/-- A numbered menu and the position that is chosen. -/
def choose (prompt : String) : (labels : List String) → Act (Fin labels.length)
  | [] => throw .emptyMenu
  | label :: labels => do
    say (styled "[bold]" "[/bold]" prompt)
    printLabels 1 (label :: labels)
    choosePosition (labels.length + 1) 0 (← get).lines

/-! ## yes or no -/

def yesWords : List String := ["y", "yes", "true", "t", "1"]

def noWords : List String := ["n", "no", "false", "f", "0"]

/-- What a yes or no answer says, if it is one; a blank answer is a yes. -/
def readYesNo? (answer : String) : Option Bool :=
  let word := Text.lower answer
  if word = "" ∨ word ∈ yesWords then some true else if word ∈ noWords then some false else none

/-- Yes unless the answer is a no. -/
def confirm (question : String) : Act Bool := do
  put (styled "" " [dim](Y/n)[/dim]" question ++ ": ")
  match readYesNo? ((← readAnswer).getD "") with
  | some b => return b
  | none =>
    say "Invalid input. Proceeding as if \"Y\" was entered."
    return true

/-! ## the fields of a kit -/

/-- The pieces between commas; blanks after a comma belong to it. -/
def piecesFrom (afterComma : Bool) : List Char → List (List Char)
  | [] => [[]]
  | c :: cs =>
    if c = ',' then [] :: piecesFrom true cs
    else if afterComma && Text.isBlank c then piecesFrom true cs
    else
      match piecesFrom false cs with
      | [] => [[c]]
      | p :: ps => (c :: p) :: ps

/-- The pieces of a comma separated list that are not empty. -/
def splitList (text : String) : List String :=
  ((piecesFrom false text.toList).filter (!·.isEmpty)).map .ofList

/-- One id for each of `count` families, from the position `index` on. -/
def askFamilies : (count index : Nat) → Act (Entries String)
  | 0, _ => return []
  | count + 1, index => do
    let id ← ask ("Enter ID for Family #" ++ toString (index + 1) ++ ":")
    return (familyField index, id) :: (← askFamilies count (index + 1))

def collectFamilyIds : Act (Entries String) := do
  let raw ← ask "Number of Font Families to add (enter 0 to skip):"
  if raw = "" then return []
  else
    match Number.readInt raw.toList with
    | .ok count => askFamilies count.toNat 0
    | .error _ =>
      say "Invalid input, skipping Font Family input."
      return []

/-- Name, domains and families, each only if something is entered. -/
def collectFields : Act Fields := do
  say "Please enter the specified parameter values."
  say "Leave any field you don't wish to specify/update blank."
  let name ← ask "Name:"
  let domains ← ask "Domains (comma separated list):"
  let families ← collectFamilyIds
  return (if name = "" then [] else [("name", .string name)])
    ++ (if domains = "" then [] else [("domains", .list ((splitList domains).map .string))])
    ++ families.map fun e => (e.1, .string e.2)

/-! ## notices -/

def sayAll : List String → Act Unit
  | [] => return ()
  | line :: lines => do
    say line
    sayAll lines

def showError (message : String) : Act Unit := do
  error "An error occurred!"
  sayAll (Hint.describeError message)

def showKit (reply : Reply) : Act Unit :=
  if reply.ok then printJson (.object reply.display) else showError reply.errorText

def showDeleted (reply : Reply) : Act Unit :=
  if reply.ok then ok "Kit successfully deleted!" else showError reply.errorText

def notify : Notice → Act Unit
  | .welcome => say "Welcome to kit_info!"
  | .goodbye => say "Thanks for using kit_info!"
  | .error text => error text
  | .showError message => showError message
  | .showKit reply => showKit reply
  | .showDeleted reply => showDeleted reply
  | .unexpectedResponse => do
    error "The API returned an unexpected response."
    error "There may be something wrong with the API. Try again later."
  | .authFailed => do
    error "Authorization failed!"
    error "Please check the API token set in KITINFO_API_TOKEN or settings.json."

/-! ## the surface -/

def turn {α : Type} (act : Act α) (c : Console) : Turn Console α :=
  let (result, world) := act.run.run c
  { result, world }

def surface : Surface Console where
  choose prompt labels := turn (choose prompt labels)
  confirm question := turn (confirm question)
  collectFields := turn collectFields
  notify n := turn (notify n)

end Console

end KitConsole
