import KitConsole.Log.Level

/-!
# Command line arguments

* `Arguments` — the options of a run.
* `Arguments.read` — the arguments as options, a wish for help, or the first thing that is wrong with them.
* `UsageError.message` — the wording of what is wrong.

An option may be shortened as long as it stays the only one with its beginning, and its value may follow an equals
sign.  A negative number and a text with a space in it are values, not options.
-/

namespace KitConsole

structure Arguments where
  offline : Bool := false
  settingsDirectory : Option String := none
  /-- The level to log from; there is none if its value has been taken away. -/
  logLevel : Option Int := some Log.Severity.warning.rank
  deriving DecidableEq, Repr

namespace Arguments

inductive Flag
  | help
  | offline
  | settingsDirectory
  | logLevel
  deriving DecidableEq, Repr

namespace Flag

def all : List Flag := [help, offline, settingsDirectory, logLevel]

def longName : Flag → String
  | help => "--help"
  | offline => "--offline"
  | settingsDirectory => "--settings-dir"
  | logLevel => "--log-level"

/-- The flag as messages name it. -/
def displayName : Flag → String
  | help => "-h/--help"
  | f => f.longName

def takesValue : Flag → Bool
  | settingsDirectory | logLevel => true
  | _ => false

/-- The flags whose long name begins so. -/
def beginningWith (start : List Char) : List Flag := all.filter fun f => start.isPrefixOf f.longName.toList

end Flag

inductive UsageError
  | ambiguous (argument : String)
  | missingValue (flag : Flag)
  | unwantedValue (flag : Flag) (value : String)
  | badLevel (fault : Log.LevelFault) (value : String)
  | unrecognized (arguments : List String)
  deriving DecidableEq, Repr

namespace UsageError

def about (flag : Flag) (text : String) : String := "argument " ++ flag.displayName ++ ": " ++ text

def message : UsageError → String
  | ambiguous argument =>
    "ambiguous option: " ++ argument ++ " could match " ++ ", ".intercalate (Flag.all.map (·.longName))
  | missingValue flag => about flag "expected one argument"
  | unwantedValue flag value => about flag ("ignored explicit argument " ++ Text.quoted value)
  | badLevel fault@(.unknown _) _ => about .logLevel fault.message
  | badLevel _ value => about .logLevel ("invalid parse_level value: " ++ Text.quoted value)
  | unrecognized arguments => "unrecognized arguments: " ++ " ".intercalate arguments

end UsageError

/-! ## what an argument is -/

/-- The argument after which no option is read. -/
def separator : String := "--"

inductive Token
  | value
  | separator
  | flag (f : Flag) (attached : Option String)
  /-- The short help option with letters behind it, or behind an equals sign. -/
  | helpLetters (letters : List Char)
  | unknown
  deriving DecidableEq, Repr

/-- A minus sign and a decimal number; a line end may follow. -/
def isNegativeNumber : List Char → Bool
  | '-' :: cs =>
    let body := if cs.getLast? = some '\n' then cs.dropLast else cs
    let rest := body.dropWhile Text.isDecimal
    match rest with
    | [] => !body.isEmpty
    | '.' :: fraction => !fraction.isEmpty && fraction.all Text.isDecimal
    | _ => false
  | _ => false

/-- The part before the first equals sign and the part after it. -/
def splitAtEquals (cs : List Char) : List Char × Option String :=
  match cs.dropWhile (· ≠ '=') with
  | [] => (cs, none)
  | _ :: after => (cs.takeWhile (· ≠ '='), some (.ofList after))

/-- An argument that starts like an option but is none. -/
def otherToken (cs : List Char) : Token := if isNegativeNumber cs || ' ' ∈ cs then .value else .unknown

/-- What an argument is, or that it may stand for several options. -/
def tokenOf (argument : String) : Except UsageError Token :=
  let cs := argument.toList
  match cs with
  | ['-', 'h'] => .ok (.flag .help none)
  | '-' :: 'h' :: '=' :: letters => .ok (.helpLetters letters)
  | '-' :: 'h' :: letters => .ok (.helpLetters letters)
  | '-' :: '-' :: _ =>
    let (name, attached) := splitAtEquals cs
    match Flag.beginningWith name with
    | [] => .ok (otherToken cs)
    | [f] => .ok (.flag f attached)
    | _ => .error (.ambiguous argument)
  | '-' :: _ :: _ => .ok (otherToken cs)
  | _ => .ok .value

/-- The arguments with what they are; after a separator all are values. -/
def tokensOf : List String → Except UsageError (List (String × Token))
  | [] => .ok []
  | argument :: rest =>
    if argument = separator then .ok ((argument, .separator) :: rest.map (·, .value))
    else (tokenOf argument).bind fun t => (tokensOf rest).map ((argument, t) :: ·)

/-! ## reading -/

inductive Reading
  | options (a : Arguments)
  | help
  | wrong (e : UsageError)
  deriving DecidableEq, Repr

/-- What is wrong with letters behind the short help option: only the letter itself may be repeated. -/
def unwantedLetters (letters : List Char) : Option String :=
  match letters.dropWhile (· = 'h') with
  | [] => if letters.isEmpty then some "" else none
  | rest => some (.ofList rest)

/-- The options with the value of a flag. -/
def withValue (a : Arguments) (flag : Flag) (value : String) : Except UsageError Arguments :=
  match flag with
  | .settingsDirectory => .ok { a with settingsDirectory := some value }
  | .logLevel =>
    match Log.readLevel (.string value) with
    | .ok n => .ok { a with logLevel := some n }
    | .error f => .error (.badLevel f value)
  | _ => .ok a

/-- The options with the value that is attached to a flag; a separator there takes the value away. -/
def withAttached (a : Arguments) (flag : Flag) (value : String) : Except UsageError Arguments :=
  if value = separator then
    match flag with
    | .settingsDirectory => .ok { a with settingsDirectory := none }
    | .logLevel => .ok { a with logLevel := none }
    | _ => .ok a
  else withValue a flag value

/-- The options read so far with the rest; `extra` holds the arguments that belong to no option. -/
def readTokens (a : Arguments) (extra : List String) : List (String × Token) → Reading
  | [] => if extra.isEmpty then .options a else .wrong (.unrecognized extra)
  | (s, .value) :: rest => readTokens a (extra ++ [s]) rest
  | (s, .separator) :: rest => readTokens a (extra ++ [s]) rest
  | (s, .unknown) :: rest => readTokens a (extra ++ [s]) rest
  | (_, .helpLetters letters) :: _ =>
    match unwantedLetters letters with
    | some x => .wrong (.unwantedValue .help x)
    | none => .help
  | (_, .flag f (some x)) :: rest =>
    if f.takesValue then
      match withAttached a f x with
      | .ok a => readTokens a extra rest
      | .error e => .wrong e
    else .wrong (.unwantedValue f x)
  | (_, .flag .help none) :: _ => .help
  | (_, .flag .offline none) :: rest => readTokens { a with offline := true } extra rest
  | (_, .flag f none) :: (x, .value) :: rest =>
    match withValue a f x with
    | .ok a => readTokens a extra rest
    | .error e => .wrong e
  | (_, .flag f none) :: _ => .wrong (.missingValue f)

def read (arguments : List String) : Reading :=
  match tokensOf arguments with
  | .error e => .wrong e
  | .ok tokens => readTokens {} [] tokens

end Arguments

end KitConsole
