import KitConsole.Json.Inline
import KitConsole.Json.Reader
import KitConsole.Status
import KitConsole.Text.Blank
import KitConsole.Text.LetterCase

/-!
# Errors of the kit service

* `Detail.firstString` — the text that an error body has for the user.
* `ServiceError.describe` — the message for a status and its body: the label, followed by the detail unless the
  detail only repeats the reason phrase.
* `ServiceError.ofStatus?` — the error that a status stands for; none for a success.
-/

namespace KitConsole

/-! ## the detail of an error body -/

namespace Detail

/-- The fields that may hold a message, in the order in which they are tried. -/
def messageFields : List String := ["errors", "error", "message", "detail"]

def stripped? (s : String) : Option String :=
  let t := Text.strip s
  if t = "" then none else some t

mutual

/-- The first text that is not blank: a string itself, in a list that of the first item having one, in an object
that of the first message field having one.  The value may be nested to any depth; no limit of
the stack is modelled. -/
def firstString : Json → Option String
  | .string s => stripped? s
  | .list items => firstOfItems items
  | .object entries =>
    let texts := textsOfEntries entries
    messageFields.findSome? fun k => (Entries.get? k texts).join
  | _ => none

def firstOfItems : List Json → Option String
  | [] => none
  | v :: vs => (firstString v).or (firstOfItems vs)

def textsOfEntries : List (String × Json) → List (String × Option String)
  | [] => []
  | (k, v) :: es => (k, firstString v) :: textsOfEntries es

end

/-- How much of a body that is not JSON is kept. -/
def snippetLength : Nat := 400

def snippet (body : String) : String := .ofList (body.toList.take snippetLength)

/-- The error body of a response: its JSON, else the start of its text, null when there is none. -/
def ofBody (body : String) : Json :=
  match Json.read? body with
  | some v => v
  | none => if body = "" then .null else .string (snippet body)

end Detail

/-! ## errors -/

inductive ServiceError.Kind
  | other
  | client
  | auth
  | server
  | timeout
  deriving DecidableEq, Repr

/-- A call that the service, or the way to it, did not answer with a success. -/
structure ServiceError where
  kind : ServiceError.Kind
  message : String
  status : Option Int := none
  payload : Json := .null
  context : Option String := none
  deriving DecidableEq

namespace ServiceError

/-- The detail says more than the phrase of the status. -/
def addsTo (detail : String) (status : Int) : Bool :=
  Text.lower detail != Text.lower (Status.phrase status)

def describe (status : Int) (payload : Json) : String :=
  match Detail.firstString payload with
  | some detail => if addsTo detail status then Status.label status ++ ": " ++ detail else Status.label status
  | none => Status.label status

def Kind.ofStatus (status : Int) : Kind :=
  if status = 401 then auth
  else if 400 ≤ status ∧ status < 500 then client
  else if 500 ≤ status ∧ status < 600 then server
  else other

def ofStatus? (status : Int) (payload : Json) (context : String) : Option ServiceError :=
  if Status.isSuccess status then none
  else some ⟨.ofStatus status, describe status payload, some status, payload, some context⟩

end ServiceError

end KitConsole
