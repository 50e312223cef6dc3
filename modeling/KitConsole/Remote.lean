import KitConsole.Call
import KitConsole.Transport

/-!
# The remote kit service

* `Remote` — the address of the service and the transport to it; `Remote.connect` refuses an empty address.
* `Remote.formOf` — collected fields as form values.
* `Remote.classify` — the reply that an exchange amounts to.
* `Remote.serve` — the service over a wire.
-/

namespace KitConsole

structure Remote where
  baseUrl : String
  transport : Transport
  deriving DecidableEq, Repr

namespace Remote

def connect (baseUrl : String) (transport : Transport) : Except Fault Remote :=
  if baseUrl = "" then .error .noBaseUrl else .ok { baseUrl, transport }

/-! ## addresses -/

/-- The address without one trailing slash. -/
def root (remote : Remote) : String :=
  if remote.baseUrl.toList.getLast? = some '/' then .ofList remote.baseUrl.toList.dropLast else remote.baseUrl

def collectionUrl (remote : Remote) : String := remote.root ++ "/kits"

/-- The id as it stands in an address, if something is left of it. -/
def cleanId (id : Json) : Except Fault String :=
  let s := if id.truthy then Text.strip id.text else ""
  if s = "" then .error .blankKitId else .ok s

def kitUrl (remote : Remote) (id : Json) : Except Fault String :=
  (cleanId id).map fun s => remote.root ++ "/kits/" ++ s

/-! ## forms -/

/-- A value as form text: the items of a list joined by commas, any other value as its text. -/
def formValue : Json → String
  | .list items => ",".intercalate (items.map (·.text))
  | v => v.text

/-- The form of collected fields; null values are left out. -/
def formOf (fields : Fields) : Entries String :=
  (fields.filter fun e => !e.2.isNull).map fun e => (e.1, formValue e.2)

/-! ## replies -/

def record (severity : Log.Severity) (message : String) : Log.Record := ⟨severity, .remote, message⟩

/-- A failed call as a reply, with the record of it. -/
def ofError (expected context : String) (e : ServiceError) : Reply × List Log.Record :=
  match e.kind with
  | .auth =>
    (.unauthorized expected e.message,
      [record .info (context ++ ": authorization failed (" ++ e.message ++ ")")])
  | _ => (.failure expected e.message, [record .info (context ++ " failed: " ++ e.message)])

/-- A decoded body as a reply, with a record if it is no success. -/
def ofPayload (expected context : String) (payload : Json) : Reply × List Log.Record :=
  let reply := Reply.ofPayload payload expected
  (reply, reply.error.toList.map fun e => record .info (context ++ ": " ++ e))

/-- A response as a reply; a body that is not JSON counts as null. -/
def ofResponse (expected context : String) (r : Wire.Response) : Reply × List Log.Record :=
  match ServiceError.ofStatus? r.status (Detail.ofBody r.body) context with
  | some e => ofError expected context e
  | none =>
    match Json.read? r.body with
    | some payload => ofPayload expected context payload
    | none =>
      let (reply, log) := ofPayload expected context .null
      (reply, record .warning ("Invalid JSON response: " ++ Detail.snippet r.body) :: log)

def classify (expected context : String) : Except Transport.Failed Wire.Response →
    Except Fault Reply × List Log.Record
  | .error (.refused message) => (.error (.badRequestValue message), [])
  | .error (.service e) =>
    let (reply, log) := ofError expected context e
    (.ok reply, log)
  | .ok r =>
    let (reply, log) := ofResponse expected context r
    (.ok reply, log)

def settle (expected context : String) (e : Transport.Exchange) : Turn Wire Reply :=
  let (result, log) := classify expected context e.result
  { result, log := e.log ++ log, world := e.wire }

/-- A call about one kit: nothing is sent if the id is blank. -/
def atKit (remote : Remote) (id : Json) (wire : Wire) (send : String → Turn Wire Reply) : Turn Wire Reply :=
  match remote.kitUrl id with
  | .error f => { result := .error f, world := wire }
  | .ok url => send url

/-! ## calls -/

/-- What a call is named in logs and errors. -/
def context : Call → String
  | .listKits => "list_kits"
  | .getKit id => "get_kit[" ++ id.text ++ "]"
  | .saveKit _ .null => "create_kit"
  | .saveKit _ id => "update_kit[" ++ id.text ++ "]"
  | .deleteKit id => "delete_kit[" ++ id.text ++ "]"

def serve (remote : Remote) : Service Wire := fun call wire =>
  let settle := settle call.expected (context call)
  let t := remote.transport
  match call with
  | .listKits => settle (t.get remote.collectionUrl none wire)
  | .getKit id => remote.atKit id wire fun url => settle (t.get url none wire)
  | .saveKit fields .null => settle (t.post remote.collectionUrl (formOf fields) none wire)
  | .saveKit fields id => remote.atKit id wire fun url => settle (t.post url (formOf fields) none wire)
  | .deleteKit id => remote.atKit id wire fun url => settle (t.delete url none wire)

end Remote

end KitConsole
