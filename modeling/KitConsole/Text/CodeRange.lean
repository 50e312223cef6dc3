/-!
# Sets of characters as ranges of code points

* `CodeRange.mem` — membership of a character in a list of closed ranges; the character classes of this library
  that reach beyond ASCII are tables of such ranges.
-/

namespace KitConsole.Text

/-- A closed range of code points. -/
abbrev CodeRange := Nat × Nat

/-- Some range of `table` holds the character. -/
def CodeRange.mem (table : List CodeRange) (c : Char) : Bool :=
  table.any fun r => r.1 ≤ c.toNat && c.toNat ≤ r.2

end KitConsole.Text
