import KitConsole.Fault
import KitConsole.Log
import KitConsole.ServiceError
import KitConsole.Wire

/-!
# Sending with retries

* `Transport.isResent` — the failures after which a request is sent again: any connectivity failure for a read or a
  delete, and for a post only a connection that was never made.
* `Transport.exchange` — a request sent up to one time more than the retries allow, and what decided it.
* `Transport.get`, `Transport.post`, `Transport.delete` — the three kinds of request under one policy.
-/

namespace KitConsole

open Wire

/-- The time limit and the number of retries of a service. -/
structure Transport where
  token : Option String := none
  timeoutSeconds : Int := 10
  retries : Int := 2
  deriving DecidableEq, Repr

namespace Transport

/-- What a request ends in. -/
inductive Failed
  | service (error : ServiceError)
  | refused (message : String)
  deriving DecidableEq

def isResent : Method → Cause → Bool
  | .post, cause => cause = .connectTimeout
  | _, cause => cause.isConnectivity

def context (r : Request) : String := r.method.name ++ " " ++ r.url

def failureError (r : Request) (f : Failure) : ServiceError :=
  if f.cause.isConnectivity then
    { kind := .timeout, message := "Timeout contacting " ++ r.url, context := some (context r) }
  else
    { kind := .other, message := "Request to " ++ r.url ++ " failed: " ++ f.cause.name, context := some (context r) }

def debugRecord (message : String) : Log.Record := ⟨.debug, .transport, message⟩

def retryRecord (r : Request) (attempt : Nat) (f : Failure) : Log.Record :=
  debugRecord (context r ++ " attempt " ++ toString attempt ++ " failed, retrying: " ++ f.detail)

def failureRecord (r : Request) (attempt : Nat) (f : Failure) : Log.Record :=
  debugRecord (context r ++ " failed after " ++ toString attempt ++ " attempt(s): " ++ f.detail)

def responseRecord (r : Request) (x : Response) : Log.Record :=
  debugRecord (context r ++ " -> " ++ Number.intText x.status)

structure Exchange where
  result : Except Failed Response
  log : List Log.Record
  wire : Wire

/-- The attempts from number `attempt` on, of which `left` may follow the next one. -/
def attempts (r : Request) (attempt : Nat) : (left : Nat) → Wire → Exchange
  | left, wire =>
    let (outcome, wire) := wire.send r
    match outcome, left with
    | .response x, _ => ⟨.ok x, [responseRecord r x], wire⟩
    | .refusal message, _ => ⟨.error (.refused message), [], wire⟩
    | .failure f, 0 => ⟨.error (.service (failureError r f)), [failureRecord r attempt f], wire⟩
    | .failure f, left + 1 =>
      if isResent r.method f.cause then
        let e := attempts r (attempt + 1) left wire
        { e with log := retryRecord r attempt f :: e.log }
      else ⟨.error (.service (failureError r f)), [failureRecord r attempt f], wire⟩

/-- The retries that follow the first attempt; a negative number allows none. -/
def exchange (t : Transport) (r : Request) (wire : Wire) : Exchange := attempts r 1 t.retries.toNat wire

/-- A request of the transport; a time limit of zero, or none, is the transport's own. -/
def request (t : Transport) (method : Method) (url : String) (timeout : Option Int) (form : Entries String) :
    Request :=
  { method, url
    token := t.token.filter (· ≠ "")
    timeoutSeconds := if timeout.getD 0 = 0 then t.timeoutSeconds else timeout.getD 0
    form := if form.isEmpty then none else some form }

def get (t : Transport) (url : String) (timeout : Option Int) (wire : Wire) : Exchange :=
  t.exchange (t.request .get url timeout []) wire

def post (t : Transport) (url : String) (form : Entries String) (timeout : Option Int) (wire : Wire) : Exchange :=
  t.exchange (t.request .post url timeout form) wire

def delete (t : Transport) (url : String) (timeout : Option Int) (wire : Wire) : Exchange :=
  t.exchange (t.request .delete url timeout []) wire

end Transport

end KitConsole
