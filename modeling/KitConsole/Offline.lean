import KitConsole.Call

/-!
# The offline kit store

* `Offline` — the kits under their ids in order, the failures that are switched on, the calls made so far, and the
  numbers that ids are drawn from.
* `Offline.newId` — the id of the next new kit: the next of these numbers, in seven hexadecimal digits.
* `Offline.answer` — the answer to a call and the store afterwards.
* `Offline.serve` — the store as a service.

Kits change only in a save or a delete that succeeds; every call is recorded, also one that fails.
-/

namespace KitConsole

/-- The failures that can be switched on. -/
structure Offline.Flags where
  authError : Bool := false
  notFoundError : Bool := false
  badRequestError : Bool := false
  malformed : Bool := false
  empty : Bool := false
  deriving DecidableEq, Repr

/-- `draws` are the numbers that are drawn for the ids of new kits, any sequence of them; `drawn` counts those that have
been used. -/
structure Offline where
  kits : Entries Kit := []
  flags : Offline.Flags := {}
  calls : List Call := []
  draws : Nat → Nat := id
  drawn : Nat := 0

namespace Offline

def unauthorizedText : String := "401 Unauthorized"

def notFoundText : String := "404 Not Found"

def badRequestText : String := "400 Bad Request"

def exampleKit : Kit :=
  { id := "abc1def", name := "Example", domains := [.string "example.com"], id_not_blank := by decide }

def withExampleKit (flags : Flags) : Offline := { kits := [(exampleKit.id, exampleKit)], flags }

/-- A store of the given kits under their own ids. -/
def ofKits (kits : List Kit) (flags : Flags) : Offline :=
  { kits := Entries.ofPairs (kits.map fun k => (k.id, k)), flags }

/-! ## ids -/

/-- The text of an id that may be in the store; lists and objects cannot be looked up. -/
def keyOf : Json → Except Fault (Option String)
  | .string s => .ok (some s)
  | .list _ => .error .unusableValue
  | .object _ => .error .unusableValue
  | _ => .ok none

/-- The id and the kit stored under it. -/
def find? (store : Offline) (id : Json) : Except Fault (Option (String × Kit)) :=
  (keyOf id).map fun key => key.bind fun k => (Entries.get? k store.kits).map fun kit => (k, kit)

/-- The id for a drawn number: its last seven hexadecimal digits. -/
def freshId (n : Nat) : String := .ofList (Text.hexDigits 7 n)

theorem isBlank_hexChar {d : Nat} (h : d < 16) : Text.isBlank (Text.hexChar d) = false := by
  have : ∀ d : Fin 16, Text.isBlank (Text.hexChar d) = false := by decide
  exact this ⟨d, h⟩

theorem isBlankText_freshId (n : Nat) : Text.isBlankText (freshId n) = false := by
  simp [Text.isBlankText, freshId, Text.hexDigits, isBlank_hexChar (Nat.mod_lt _ (by decide : 0 < 16))]

/-- Every text of seven hexadecimal digits can be drawn. -/
theorem exists_freshId_iff {id : String} : (∃ n, freshId n = id) ↔
    id.length = 7 ∧ ∀ c ∈ id.toList, ∃ d < 16, Text.hexChar d = c := by
  have hid : ∀ n, freshId n = id ↔ Text.hexDigits 7 n = id.toList := by
    intro n
    rw [← String.toList_inj, freshId, String.toList_ofList]
  simp only [hid, Text.exists_hexDigits_iff, String.length_toList]

/-- The id of the next new kit. -/
def newId (store : Offline) : String := freshId (store.draws (store.drawn + 1))

theorem isBlankText_newId (store : Offline) : Text.isBlankText store.newId = false := isBlankText_freshId _

/-- The next new kit, before it is given any field. -/
def newKit (store : Offline) : Kit := { id := store.newId, id_not_blank := store.isBlankText_newId }

/-! ## merging fields into a kit -/

/-- The items of a value that stands for a collection: the characters of a text, the keys of an object. -/
def itemsOf : Json → Except Fault (List Json)
  | .list items => .ok items
  | .string s => .ok (s.toList.map fun c => .string (String.singleton c))
  | .object entries => .ok (entries.map fun e => .string e.1)
  | _ => .error .unusableValue

def isFamilyField (key : String) : Bool := "families[".toList.isPrefixOf key.toList

/-- The family values that are given, in the order of the fields. -/
def familiesOf (fields : Fields) : List String :=
  (fields.filter fun e => isFamilyField e.1 && e.2.truthy).map (·.2.text)

/-- The value of a field, null if it is not there. -/
def fieldOf (fields : Fields) (key : String) : Json := (Json.object fields).field key

/-- The kit with every field that is given replaced, and the others kept. -/
def merge (kit : Kit) (fields : Fields) : Except Fault Kit :=
  let name := fieldOf fields "name"
  let domains := fieldOf fields "domains"
  let families := familiesOf fields
  (if domains.truthy then itemsOf domains else .ok kit.domains).map fun domains =>
    { kit with
      name := if name.truthy then name.text else kit.name
      domains
      families := if families.isEmpty then kit.families else families }

/-! ## calls -/

def kitReply (kit : Kit) : Reply := .success "kit" [("kit", .object kit.payload)]

def listing (store : Offline) : Json :=
  .list (if store.flags.empty then []
    else store.kits.keys.map fun id =>
      .object [("id", .string id), ("link", .string ("/api/v1/json/kits/" ++ id))])

def put (store : Offline) (kit : Kit) : Offline := { store with kits := Entries.put kit.id kit store.kits }

def saveInto (store : Offline) (kit : Kit) (fields : Fields) : Except Fault Reply × Offline :=
  match merge kit fields with
  | .error f => (.error f, store)
  | .ok kit => (.ok (kitReply kit), store.put kit)

def list (store : Offline) : Reply :=
  if store.flags.malformed then .malformed "kits" else .success "kits" [("kits", store.listing)]

def get (store : Offline) (id : Json) : Except Fault Reply :=
  (store.find? id).map fun
    | some (_, kit) => if store.flags.notFoundError then .failure "kit" notFoundText else kitReply kit
    | none => .failure "kit" notFoundText

def create (store : Offline) (fields : Fields) : Except Fault Reply × Offline :=
  saveInto { store with drawn := store.drawn + 1 } store.newKit fields

def update (store : Offline) (fields : Fields) (id : Json) : Except Fault Reply × Offline :=
  match store.find? id with
  | .error f => (.error f, store)
  | .ok none => (.ok (.failure "kit" notFoundText), store)
  | .ok (some (_, kit)) => store.saveInto kit fields

def save (store : Offline) (fields : Fields) (id : Json) : Except Fault Reply × Offline :=
  if store.flags.badRequestError then (.ok (.failure "kit" badRequestText), store)
  else if id.isNull then store.create fields
  else store.update fields id

def delete (store : Offline) (id : Json) : Except Fault Reply × Offline :=
  if store.flags.notFoundError then (.ok (.failure "ok" notFoundText), store)
  else
    match store.find? id with
    | .error f => (.error f, store)
    | .ok none => (.ok (.failure "ok" notFoundText), store)
    | .ok (some (key, _)) =>
      (.ok (.success "ok" [("ok", .string "true")]), { store with kits := Entries.erase key store.kits })

/-- The answer to a call, given that it is recorded. -/
def respond (store : Offline) (call : Call) : Except Fault Reply × Offline :=
  if store.flags.authError then (.ok (.unauthorized call.expected unauthorizedText), store)
  else
    match call with
    | .listKits => (.ok store.list, store)
    | .getKit id => (store.get id, store)
    | .saveKit fields id => store.save fields id
    | .deleteKit id => store.delete id

def answer (call : Call) (store : Offline) : Except Fault Reply × Offline :=
  respond { store with calls := store.calls ++ [call] } call

def serve : Service Offline := fun call store =>
  let (result, world) := store.answer call
  { result, world }

end Offline

end KitConsole
