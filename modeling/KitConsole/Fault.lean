/-!
# Faults

* `Fault` — why a part of the world outside, or a step itself, could not do its work.
* `Stop` — what ends a session before its plan does: a fault, or a rejected credential.
* `Fault.message`, `Stop.message` — the wording of each.
-/

namespace KitConsole

inductive Fault
  /-- A kit id without a visible character. -/
  | blankKitId
  /-- A remote service without an address. -/
  | noBaseUrl
  /-- No service has been configured. -/
  | noService
  /-- A menu without an entry. -/
  | emptyMenu
  /-- A value that the transport cannot work with. -/
  | badRequestValue (message : String)
  /-- A text of the given length where a field with its value is expected. -/
  | notField (length : Nat)
  /-- A value of a type that the step cannot use. -/
  | unusableValue
  /-- The input ended before an answer. -/
  | endOfInput
  deriving DecidableEq, Repr, Inhabited

namespace Fault

def message : Fault → String
  | blankKitId => "Kit id must be a non-empty string."
  | noBaseUrl => "TypekitRestAdapter requires a base URL"
  | noService => "No kit gateway configured; set an API token first."
  | emptyMenu => "choose() requires at least one option"
  | badRequestValue message => message
  | notField length =>
    "dictionary update sequence element #0 has length " ++ toString length ++ "; 2 is required"
  | unusableValue => "unusable value"
  | endOfInput => "EOF when reading a line"

end Fault

inductive Stop
  | rejected (message : String)
  | fault (f : Fault)
  deriving DecidableEq, Repr

namespace Stop

/-- The wording of a rejection that comes without one. -/
def defaultRejection : String := "The API rejected the configured token."

def message : Stop → String
  | rejected message => message
  | fault f => f.message

end Stop

end KitConsole
