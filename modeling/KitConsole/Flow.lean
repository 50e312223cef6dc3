import KitConsole.Dialogue

/-!
# The steps of a session

* `Flow.mainMenuOptions`, `Flow.kitActions` — the two fixed menus.
* `Flow.step` — the dialogue of an operation, given what the operation before it left.

What a step leaves is a value: null, the id of a kit, or collected fields with the id in them.
-/

namespace KitConsole.Flow

open Dialogue

def mainMenuOptions : Entries Operation :=
  [("Interact with Existing Kits", .listAndChoose), ("Create a new Kit", .collectFields), ("Quit", .quit)]

def kitActions : Entries Operation :=
  [("View Kit info", .view), ("Update Kit", .collectFields), ("Delete Kit", .delete)]

def mainMenu : Menu Operation := ⟨"What would you like to do?", mainMenuOptions⟩

def actionMenu : Menu Operation := ⟨"What would you like to do with this Kit?", kitActions⟩

def kitMenu (kits : Entries String) : Menu String := ⟨"Select a Kit:", kits⟩

def call (c : Call) : Dialogue Reply := perform (.call c)

def confirm (question : String) : Dialogue Bool := perform (.confirm question)

def notify (n : Notice) : Dialogue Unit := perform (.notify n)

def record (severity : Log.Severity) (message : String) : Log.Record := ⟨severity, .session, message⟩

/-! ## replies -/

/-- The text of a rejection, with a stand-in where there is none. -/
def rejectionText (reply : Reply) : String :=
  if reply.errorText = "" then "Authorization failed." else reply.errorText

/-- Whether a reply can be used or reported; a malformed one is reported here, a rejection ends the session. -/
def accept (reply : Reply) : Dialogue Bool :=
  match reply.kind with
  | .unauthorized => fail (.rejected (rejectionText reply))
  | .malformed => do
    log (record .info ("unexpected API response: " ++ (⟨reply.expected, ""⟩ : MissingField).message))
    notify .unexpectedResponse
    return false
  | _ => return true

/-- Whether a reply is a success; one that is not is reported. -/
def succeeded (reply : Reply) : Dialogue Bool := do
  let accepted ← accept reply
  if accepted && reply.ok then return true
  else
    if reply.kind = .error then notify (.showError reply.errorText)
    return false

/-! ## listed kits -/

/-- The id of an entry of a listing, if it is an object with one. -/
def listedId? : Json → Option String
  | .object entries =>
    let id := (Json.object entries).field idField
    if id.truthy then some id.text else none
  | _ => none

/-- The ids of a listing; a text or an object holds none, and a number or `true` is no listing. -/
def listedIds (value : Json) : Except Fault (List String) :=
  if value.truthy then
    match value with
    | .list items => .ok (items.filterMap listedId?)
    | .string _ => .ok []
    | .object _ => .ok []
    | _ => .error .unusableValue
  else .ok []

/-- The name under which a fetched kit is offered: its name, or its id where it has none. -/
def kitName (id : String) (info : Reply) : String :=
  let name := info.value.field "name"
  if name.truthy then name.text else id

/-- The kits so far with one more, told apart by its id if its name is taken. -/
def offer (kits : Entries String) (id name : String) : Entries String :=
  let label := if name ∈ kits.keys then name ++ " (" ++ id ++ ")" else name
  Entries.put label id kits

/-- The kits with their names, fetched one by one; nothing if one of them could not be fetched. -/
def fetchKits : List String → Entries String → Dialogue (Option (Entries String))
  | [], kits => return some kits
  | id :: ids, kits => do
    let info ← call (.getKit (.string id))
    if ← succeeded info then fetchKits ids (offer kits id (kitName id info))
    else return none

/-! ## collected fields -/

/-- A field with its value, written as a pair of items, of characters or of keys.  Only text keys are modelled: a pair
whose key is a number, a boolean or null is a fault here, as is one whose key is a list. -/
def fieldOfPair : Json → Except Fault (String × Json)
  | .list [.string k, v] => .ok (k, v)
  | .list [_, _] => .error .unusableValue
  | .list items => .error (.notField items.length)
  | .string s =>
    match s.toList with
    | [k, v] => .ok (String.singleton k, .string (String.singleton v))
    | cs => .error (.notField cs.length)
  | .object [(k, _), (v, _)] => .ok (k, .string v)
  | .object entries => .error (.notField entries.length)
  | _ => .error .unusableValue

/-- What the step before left, as fields. -/
def fieldsOf (value : Json) : Except Fault Fields :=
  if value.truthy then
    match value with
    | .object entries => .ok entries
    | .list items => (items.mapM fieldOfPair).map Entries.ofPairs
    | .string _ => .error (.notField 1)
    | _ => .error .unusableValue
  else .ok []

/-! ## steps -/

/-- The cheapest call, to see whether the credential is accepted. -/
def authenticate : Dialogue Json := do
  let reply ← call .listKits
  if ← accept reply then
    if !reply.ok then notify (.showError reply.errorText)
  return .null

def chooseOperation : Dialogue Json := do
  let i ← perform (.chooseOperation mainMenu)
  schedule [mainMenu.value i]
  return .null

/-- Offers the listed kits by name, and to create one where there are none. -/
def chooseListed (ids : List String) : Dialogue Json := do
  if ids.isEmpty then
    let create ← confirm "No Kits found! Would you like to create one?"
    schedule [if create then .collectFields else .quit]
    return .null
  else
    match ← fetchKits ids [] with
    | none =>
      schedule [.quit]
      return .null
    | some kits =>
      let i ← perform (.chooseKit (kitMenu kits))
      schedule [.chooseAction]
      return .string ((kitMenu kits).value i)

def listAndChoose : Dialogue Json := do
  let reply ← call .listKits
  if ← succeeded reply then
    let ids ← ofExcept (listedIds reply.value)
    chooseListed ids
  else
    schedule [.quit]
    return .null

def chooseAction (id : Json) : Dialogue Json := do
  let i ← perform (.chooseOperation actionMenu)
  match actionMenu.value i with
  | .view => schedule [.view, .afterView]
  | action => schedule [action]
  return id

def afterView (id : Json) : Dialogue Json := do
  if ← confirm "Don't like what you see? Do you want to edit this kit?" then schedule [.collectFields]
  return id

/-- Asks for the fields of a kit, a new one if there is no id; an update is followed by another look at it. -/
def collectFields (id : Json) : Dialogue Json := do
  schedule (if id.isNull then [.save] else [.save, .afterView])
  let fields ← perform .collectFields
  return .object (Entries.put idField id fields)

def noKitSelected : Notice := .error "No Kit selected."

def view (id : Json) : Dialogue Json := do
  if id.isNull then
    notify noKitSelected
    return .null
  else
    let reply ← call (.getKit id)
    if ← accept reply then notify (.showKit reply)
    return id

def save (value : Json) : Dialogue Json := do
  let fields ← ofExcept (fieldsOf value)
  let id := (Json.object fields).field idField
  let reply ← call (.saveKit (Entries.erase idField fields) id)
  if ← accept reply then notify (.showKit reply)
  return id

def delete (id : Json) : Dialogue Json := do
  if id.isNull then
    notify noKitSelected
    return .null
  else
    let reply ← call (.deleteKit id)
    if ← accept reply then notify (.showDeleted reply)
    return .null

/-- The dialogue of an operation; `quit` has none. -/
def step (op : Operation) (last : Json) : Dialogue Json :=
  match op with
  | .authenticate => authenticate
  | .mainMenu => chooseOperation
  | .listAndChoose => listAndChoose
  | .chooseAction => chooseAction last
  | .afterView => afterView last
  | .collectFields => collectFields last
  | .view => view last
  | .save => save last
  | .delete => delete last
  | .quit => return .null

end KitConsole.Flow
