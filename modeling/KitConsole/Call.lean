import KitConsole.Fault
import KitConsole.Kit
import KitConsole.Log
import KitConsole.Reply

/-!
# Calls to a kit service

* `Call` — the four calls of a kit service; an id may be any value, null in a save stands for a new kit.
* `Turn` — what comes of asking the world: a result or a fault, the records logged, and the world afterwards.
* `Service` — how a world answers calls.
-/

namespace KitConsole

abbrev Fields := Entries Json

inductive Call
  | listKits
  | getKit (id : Json)
  | saveKit (fields : Fields) (id : Json)
  | deleteKit (id : Json)
  deriving DecidableEq

namespace Call

/-- The field that the answer to a call promises. -/
def expected : Call → String
  | listKits => "kits"
  | getKit _ => "kit"
  | saveKit _ _ => "kit"
  | deleteKit _ => "ok"

def name : Call → String
  | listKits => "list_kits"
  | getKit _ => "get_kit"
  | saveKit _ _ => "save_kit"
  | deleteKit _ => "delete_kit"

end Call

structure Turn (ω : Type) (α : Type) where
  result : Except Fault α
  log : List Log.Record := []
  world : ω

abbrev Service (ω : Type) := Call → ω → Turn ω Reply

end KitConsole
