/-!
# Log records

* `Log.Record` — a message with its severity and the part of the program that wrote it.
* `Log.Record.line` — the record as it is printed.
* `Log.visible` — the records that pass a threshold.
* `Log.Root` — the logger that all records come to: its level is the threshold.
-/

namespace KitConsole.Log

inductive Severity
  | debug
  | info
  | warning
  deriving DecidableEq, Repr

def Severity.rank : Severity → Int
  | debug => 10
  | info => 20
  | warning => 30

def Severity.name : Severity → String
  | debug => "DEBUG"
  | info => "INFO"
  | warning => "WARNING"

/-- The part of the program that a record comes from. -/
inductive Channel
  | session
  | remote
  | transport
  | settings
  | launch
  | program
  deriving DecidableEq, Repr

def Channel.name : Channel → String
  | session => "kitinfo.usecases.menu_control_flow"
  | remote => "kitinfo.adapters.typekit_rest"
  | transport => "kitinfo.adapters.http_client"
  | settings => "kitinfo.adapters.storage_local"
  | launch => "kitinfo.app.controller"
  | program => "kitinfo.app.main"

structure Record where
  severity : Severity
  channel : Channel
  message : String
  deriving DecidableEq, Repr

def Record.line (r : Record) : String := r.severity.name ++ " " ++ r.channel.name ++ ": " ++ r.message

def visible (threshold : Int) (records : List Record) : List Record :=
  records.filter fun r => threshold ≤ r.severity.rank

/-- The logger that all records come to, and whether it has a handler that prints them. -/
structure Root where
  level : Int := Severity.warning.rank
  handled : Bool := false
  deriving DecidableEq, Repr

namespace Root

def setLevel (level : Int) (root : Root) : Root := { root with level }

/-- A root without a handler gets one, and the level with it; any other root is left as it is. -/
def prepare (level : Int) (root : Root) : Root :=
  if root.handled then root else { level, handled := true }

end Root

end KitConsole.Log
