import KitConsole.Entries
import KitConsole.Number.Binary64

/-!
# JSON values

* `Json` — objects keep the order of their keys, integers are unbounded and apart from floating point numbers.
* `Json.truthy` — null, false, zero and the empty text, list and object are not.
* `Json.field` — the value under a key of an object, null where there is none.
-/

namespace KitConsole

inductive Json
  | null
  | bool (b : Bool)
  | int (n : Int)
  | float (x : Number.Binary64)
  | string (s : String)
  | list (items : List Json)
  | object (entries : List (String × Json))
  deriving Inhabited

namespace Json

/-! ## equality -/

mutual
def decEq : (a b : Json) → Decidable (a = b)
  | .null, b => match b with
    | .null => isTrue rfl
    | .bool _ | .int _ | .float _ | .string _ | .list _ | .object _ => isFalse nofun
  | .bool x, b => match b with
    | .bool y => if h : x = y then isTrue (h ▸ rfl) else isFalse fun e => h (Json.bool.inj e)
    | .null | .int _ | .float _ | .string _ | .list _ | .object _ => isFalse nofun
  | .int x, b => match b with
    | .int y => if h : x = y then isTrue (h ▸ rfl) else isFalse fun e => h (Json.int.inj e)
    | .null | .bool _ | .float _ | .string _ | .list _ | .object _ => isFalse nofun
  | .float x, b => match b with
    | .float y => if h : x = y then isTrue (h ▸ rfl) else isFalse fun e => h (Json.float.inj e)
    | .null | .bool _ | .int _ | .string _ | .list _ | .object _ => isFalse nofun
  | .string x, b => match b with
    | .string y => if h : x = y then isTrue (h ▸ rfl) else isFalse fun e => h (Json.string.inj e)
    | .null | .bool _ | .int _ | .float _ | .list _ | .object _ => isFalse nofun
  | .list x, b => match b with
    | .list y => match decEqList x y with
      | isTrue h => isTrue (h ▸ rfl)
      | isFalse h => isFalse fun e => h (Json.list.inj e)
    | .null | .bool _ | .int _ | .float _ | .string _ | .object _ => isFalse nofun
  | .object x, b => match b with
    | .object y => match decEqEntries x y with
      | isTrue h => isTrue (h ▸ rfl)
      | isFalse h => isFalse fun e => h (Json.object.inj e)
    | .null | .bool _ | .int _ | .float _ | .string _ | .list _ => isFalse nofun

def decEqList : (xs ys : List Json) → Decidable (xs = ys)
  | [], [] => isTrue rfl
  | [], _ :: _ => isFalse nofun
  | _ :: _, [] => isFalse nofun
  | x :: xs, y :: ys => match decEq x y, decEqList xs ys with
    | isTrue h, isTrue h' => isTrue (h ▸ h' ▸ rfl)
    | isFalse h, _ => isFalse fun e => h (List.cons.inj e).1
    | _, isFalse h => isFalse fun e => h (List.cons.inj e).2

def decEqEntries : (xs ys : List (String × Json)) → Decidable (xs = ys)
  | [], [] => isTrue rfl
  | [], _ :: _ => isFalse nofun
  | _ :: _, [] => isFalse nofun
  | (k, x) :: xs, (l, y) :: ys => match decEq x y, decEqEntries xs ys with
    | isTrue h, isTrue h' =>
      if hk : k = l then isTrue (hk ▸ h ▸ h' ▸ rfl)
      else isFalse fun e => hk (Prod.mk.inj (List.cons.inj e).1).1
    | isFalse h, _ => isFalse fun e => h (Prod.mk.inj (List.cons.inj e).1).2
    | _, isFalse h => isFalse fun e => h (List.cons.inj e).2
end

instance : DecidableEq Json := decEq

/-! ## reading values -/

def truthy : Json → Bool
  | null => false
  | bool b => b
  | int n => n != 0
  | float x => !x.isZero
  | string s => s != ""
  | list items => !items.isEmpty
  | object entries => !entries.isEmpty

def isNull : Json → Bool
  | null => true
  | _ => false

def ofOption : Option Json → Json
  | some v => v
  | none => null

def textOrNull : Option String → Json
  | some s => string s
  | none => null

def field (k : String) : Json → Json
  | object entries => ofOption (Entries.get? k entries)
  | _ => null

end Json

end KitConsole
