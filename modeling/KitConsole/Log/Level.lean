import KitConsole.Environment
import KitConsole.Json.Inline
import KitConsole.Log
import KitConsole.Text.Blank
import KitConsole.Text.LetterCase

/-!
# Log levels

* `Log.readLevel` — the level that a value names: a level name in any case, or a numeral.
* `Log.requestedLevel` — the level that the environment asks for.
* `Log.threshold`, `Log.threshold?` — that level, or a default.
* `Log.Root.configure` — the root logger set up with it.
-/

namespace KitConsole.Log

open KitConsole.Number

def levelNames : List (String × Int) :=
  [("CRITICAL", 50), ("FATAL", 50), ("ERROR", 40), ("WARN", 30), ("WARNING", 30), ("INFO", 20), ("DEBUG", 10),
   ("NOTSET", 0)]

inductive LevelFault
  | unknown (shown : String)
  | notNumeral (text : String)
  | tooLong (digits : Nat)
  /-- Neither the environment nor the arguments name a level. -/
  | absent
  deriving DecidableEq, Repr

def LevelFault.message : LevelFault → String
  | unknown shown => "unknown log level: " ++ shown
  | notNumeral text =>
    "invalid literal for int() with base 10: " ++ .ofList ((Text.quoted text).toList.take 200)
  | tooLong digits =>
    "Exceeds the limit (" ++ toString maxDigits ++ " digits) for integer string conversion: value has "
      ++ toString digits ++ " digits; use sys.set_int_max_str_digits() to increase the limit"
  | absent => "no log level is given"

/-- A text of digit signs is read as a numeral, which may fail; any other text must be a level name. -/
def readLevel (value : Json) : Except LevelFault Int :=
  let text := Text.upper (Text.strip value.text)
  if !text.toList.isEmpty && text.toList.all Text.isDigitSign then
    match readNat text.toList with
    | .ok n => .ok n
    | .error .malformed => .error (.notNumeral text)
    | .error (.tooLong digits) => .error (.tooLong digits)
  else
    match levelNames.lookup text with
    | some n => .ok n
    | none => .error (.unknown value.inline)

def levelVariable : String := "KITINFO_LOG_LEVEL"

def debugVariable : String := "KITINFO_DEBUG"

def affirmative : List String := ["1", "true", "yes", "on"]

def debugRequested (env : Environment) : Option Int :=
  if Text.lower (Text.strip (env.text debugVariable)) ∈ affirmative then some Severity.debug.rank else none

/-- The level of the environment: an unknown name counts as not set, a bad numeral does not. -/
def requestedLevel (env : Environment) : Except LevelFault (Option Int) :=
  let raw := Text.strip (env.text levelVariable)
  if raw = "" then .ok (debugRequested env)
  else
    match readLevel (.string raw) with
    | .ok n => .ok (some n)
    | .error (.unknown _) => .ok (debugRequested env)
    | .error f => .error f

/-- The level of the environment, else the default one, if there is any. -/
def threshold? (default : Option Int) (env : Environment) : Except LevelFault Int :=
  (requestedLevel env).bind fun requested =>
    match requested <|> default with
    | some n => .ok n
    | none => .error .absent

def threshold (default : Int) (env : Environment) : Except LevelFault Int :=
  (requestedLevel env).map (·.getD default)

theorem threshold?_some (default : Int) (env : Environment) :
    threshold? (some default) env = threshold default env := by
  unfold threshold? threshold
  cases requestedLevel env with
  | error f => rfl
  | ok requested => cases requested <;> rfl

/-- The root with a handler and the level that is in force; a fault leaves it as it is. -/
def Root.configure (default : Option Int) (env : Environment) (root : Root) : Except LevelFault Int × Root :=
  match threshold? default env with
  | .error f => (.error f, root)
  | .ok n => (.ok n, (root.prepare n).setLevel n)

end KitConsole.Log
