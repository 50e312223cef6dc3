import KitConsole.Dialogue

/-!
# Prepared answers

* `Scripted.service` — a service that answers with prepared replies, whatever the call.
* `Scripted.surface` — a user whose choices, confirmations and fields are prepared.

Where nothing is prepared, a call fails, the first entry of a menu is chosen, a question is answered with no, and
no fields are entered.
-/

namespace KitConsole.Scripted

/-- A prepared reply; the promised field is that of the call. -/
structure Prepared where
  kind : Reply.Kind
  data : Entries Json := []
  error : Option String := none

def service : Service (List Prepared) := fun call prepared =>
  match prepared with
  | [] => { result := .ok (.failure call.expected "script exhausted"), world := [] }
  | p :: rest => { result := .ok ⟨p.kind, call.expected, p.data, p.error⟩, world := rest }

/-- A choice by its number, counted from one, or by its label; anything else is no choice. -/
inductive Choice
  | number (n : Int)
  | label (text : String)
  | other

structure User where
  choices : List Choice := []
  confirms : List Bool := []
  fields : List Fields := []

def Choice.position? (labels : List String) : Choice → Option (Fin labels.length)
  | number n => (List.finRange labels.length).find? fun i => (i.val : Int) + 1 = n
  | label text => (List.finRange labels.length).find? fun i => labels.get i = text
  | other => none

/-- The position that is chosen, the first one if the choice is none of the menu. -/
def choose (labels : List String) (user : User) : Turn User (Fin labels.length) :=
  let world := { user with choices := user.choices.tail }
  match user.choices.head?.bind (·.position? labels), (List.finRange labels.length).head? with
  | some i, _ => { result := .ok i, world }
  | none, some i => { result := .ok i, world }
  | none, none => { result := .error .emptyMenu, world }

def surface : Surface User where
  choose _ labels user := choose labels user
  confirm _ user :=
    { result := .ok (user.confirms.headD false), world := { user with confirms := user.confirms.tail } }
  collectFields user :=
    { result := .ok (user.fields.headD []), world := { user with fields := user.fields.tail } }
  notify _ user := { result := .ok (), world := user }

end KitConsole.Scripted
