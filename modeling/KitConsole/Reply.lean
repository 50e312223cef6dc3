import KitConsole.Json.Inline

/-!
# Replies of a kit service

* `Reply` — the outcome of a call: the decoded body, or why there is none.
* `Reply.ofPayload` — a body is classified by the field that the call promises.
* `Reply.value`, `Reply.require`, `Reply.display` — the promised field, the complaint about a missing one, and what
  the user is shown.
-/

namespace KitConsole

/-- An answer that holds neither the promised field nor an error. -/
structure MissingField where
  field : String
  context : String := ""
  deriving DecidableEq, Repr

def MissingField.message (m : MissingField) : String :=
  "The response from the endpoint is missing an expected value: '" ++ m.field ++ "'"
    ++ (if m.context = "" then "" else " (" ++ m.context ++ ")")

inductive Reply.Kind
  | ok
  | error
  | unauthorized
  | malformed
  deriving DecidableEq, Repr

structure Reply where
  kind : Reply.Kind
  expected : String
  data : Entries Json := []
  error : Option String := none
  deriving DecidableEq

namespace Reply

def Kind.name : Kind → String
  | ok => "ok"
  | error => "error"
  | unauthorized => "unauthorized"
  | malformed => "malformed"

def Kind.ofName? (s : String) : Option Kind := [ok, error, unauthorized, malformed].find? (·.name = s)

def success (expected : String) (data : Entries Json) : Reply := ⟨.ok, expected, data, none⟩

def failure (expected message : String) : Reply := ⟨.error, expected, [], some message⟩

def unauthorized (expected message : String) : Reply := ⟨.unauthorized, expected, [], some message⟩

def malformed (expected : String) : Reply :=
  ⟨.malformed, expected, [], some ("Response is missing '" ++ expected ++ "'")⟩

/-- A body is a success if the promised field is there and not null, an error if there is an error entry instead,
and malformed otherwise. -/
def ofPayload (payload : Json) (expected : String) : Reply :=
  match payload with
  | .object entries =>
    if (payload.field expected).isNull then
      match payload.field "error" with
      | .null => malformed expected
      | e => failure expected e.text
    else success expected entries
  | _ => malformed expected

def ok (r : Reply) : Bool := r.kind = .ok

/-- The promised field of a success, null otherwise. -/
def value (r : Reply) : Json := if r.ok then (Json.object r.data).field r.expected else .null

def require (r : Reply) : Except MissingField Unit :=
  if r.kind = .malformed then .error ⟨r.expected, ""⟩ else .ok ()

def display (r : Reply) : Entries Json := if r.ok then r.data else [("error", .textOrNull r.error)]

/-- The error text, empty if there is none. -/
def errorText (r : Reply) : String := r.error.getD ""

end Reply

end KitConsole
