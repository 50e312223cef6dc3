import KitConsole.Text.Width

/-!
# Tab stops

* `TabStops.expand` — a text with spaces in place of its tabs: each tab leads to the next tab stop of its line.
* `TabStops.tab_not_mem_expandChars` — no tab is left.
* `TabStops.expandChars_eq_self` — a text without tabs stays as it is.
-/

namespace KitConsole.TabStops

/-- The cells from one tab stop to the next. -/
def distance : Nat := 8

/-- The cells from a column to the first tab stop that is not before it. -/
def gap (column : Nat) : Nat := (distance - column % distance) % distance

/-- The text with its tabs expanded, given the column behind the last tab of the line and, latest first, what follows
that tab.  A tab is one space and then the gap to the next stop, so it always takes at least one cell. -/
def expandFrom (column : Nat) (piece : List Char) : List Char → List Char
  | [] => piece.reverse
  | c :: cs =>
    if c = '\t' then
      let piece := (' ' :: piece).reverse
      let reached := column + Text.width piece
      piece ++ List.replicate (gap reached) ' ' ++ expandFrom (reached + gap reached) [] cs
    else if c = '\n' then (c :: piece).reverse ++ expandFrom 0 [] cs
    else expandFrom column (c :: piece) cs

def expandChars (cs : List Char) : List Char := expandFrom 0 [] cs

def expand (text : String) : String := .ofList (expandChars text.toList)

theorem add_gap_mod (column : Nat) : (column + gap column) % distance = 0 := by
  simp only [gap, distance]
  omega

theorem tab_not_mem_expandFrom {column : Nat} {piece cs : List Char} (h : '\t' ∉ piece) :
    '\t' ∉ expandFrom column piece cs := by
  induction cs generalizing column piece with
  | nil => simpa [expandFrom] using h
  | cons c cs ih =>
    by_cases ht : c = '\t'
    · simp [expandFrom, ht, h, ih]
    · by_cases hn : c = '\n'
      · simp [expandFrom, hn, h, ih]
      · have hp : '\t' ∉ c :: piece := by simp [h, Ne.symm ht]
        simpa [expandFrom, ht, hn] using ih hp

theorem tab_not_mem_expandChars (cs : List Char) : '\t' ∉ expandChars cs :=
  tab_not_mem_expandFrom (by simp)

theorem expandFrom_of_not_mem {cs : List Char} (h : '\t' ∉ cs) (column : Nat) (piece : List Char) :
    expandFrom column piece cs = piece.reverse ++ cs := by
  induction cs generalizing column piece with
  | nil => simp [expandFrom]
  | cons c cs ih =>
    have hc : c ≠ '\t' := fun hc => h (by simp [hc])
    have hcs : '\t' ∉ cs := fun hcs => h (by simp [hcs])
    by_cases hn : c = '\n' <;> simp [expandFrom, hc, hn, ih hcs]

theorem expandChars_eq_self {cs : List Char} (h : '\t' ∉ cs) : expandChars cs = cs := by
  simp [expandChars, expandFrom_of_not_mem h]

end KitConsole.TabStops
