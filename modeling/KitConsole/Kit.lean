import KitConsole.Json.Inline
import KitConsole.Text.Blank

/-!
# Kits

* `Kit` — a record of the kit store; its id is not blank.
* `Kit.payload` — the record as the service writes it.
* `familyField` — the form key of a font family id.
-/

namespace KitConsole

structure Kit where
  id : String
  name : String := ""
  domains : List Json := []
  families : List String := []
  analytics : Bool := false
  optimizePerformance : Bool := false
  id_not_blank : Text.isBlankText id = false

/-- The field that carries the id of a kit, in records and in collected fields. -/
def idField : String := "id"

def Kit.payload (kit : Kit) : Entries Json :=
  [("id", .string kit.id),
   ("name", .string kit.name),
   ("analytics", .bool kit.analytics),
   ("domains", .list kit.domains),
   ("families", .list (kit.families.map fun f => .object [("id", .string f)])),
   ("optimize_performance", .bool kit.optimizePerformance)]

/-- The form key of the family at a position, counted from zero. -/
def familyField (index : Int) : String := "families[" ++ Number.intText index ++ "][id]"

end KitConsole
