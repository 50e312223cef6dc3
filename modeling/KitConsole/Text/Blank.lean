import KitConsole.Text.CodeRange

/-!
# Blank characters

* `isBlank` — the white space that is trimmed from answers, settings, kit ids and messages.
* `stripChars`, `strip` — a text without the blanks at its two ends.
* `isBlankText` — nothing but blanks.
* `isBlank_head?_stripChars`, `mem_stripChars` — what is left does not begin with a blank, and holds all other characters;
  `strip_eq_empty_iff` — nothing is left of blanks alone.
* `strip_eq_self`, `isBlank_getLast?_strip`, `strip_strip` — a text whose ends are not blank is left as it is, and only
  such a text is left; `strip_padded` — more blanks at the ends make no difference.
-/

namespace KitConsole.Text

/-- White space: the ASCII controls from tab to carriage return, the four information separators, space, and the
space separators and line ends of the other blocks.  Zero-width characters are not blank. -/
def blankRanges : List CodeRange :=
  [(0x9, 0xd), (0x1c, 0x20), (0x85, 0x85), (0xa0, 0xa0), (0x1680, 0x1680), (0x2000, 0x200a), (0x2028, 0x2029),
   (0x202f, 0x202f), (0x205f, 0x205f), (0x3000, 0x3000)]

def isBlank (c : Char) : Bool := CodeRange.mem blankRanges c

def stripLeft (cs : List Char) : List Char := cs.dropWhile isBlank

def stripRight (cs : List Char) : List Char := (cs.reverse.dropWhile isBlank).reverse

def stripChars (cs : List Char) : List Char := stripRight (stripLeft cs)

def strip (s : String) : String := .ofList (stripChars s.toList)

def isBlankText (s : String) : Bool := s.toList.all isBlank

/-! ## what is left of a text -/

theorem mem_dropWhile_isBlank {c : Char} {cs : List Char} (h : c ∈ cs) (hc : isBlank c = false) :
    c ∈ cs.dropWhile isBlank := by
  rw [← List.takeWhile_append_dropWhile (p := isBlank) (l := cs)] at h
  rcases List.mem_append.1 h with h | h
  · have hblank := List.all_eq_true.1 List.all_takeWhile c h
    rw [hc] at hblank
    exact nomatch hblank
  · exact h

theorem mem_stripChars {c : Char} {cs : List Char} (h : c ∈ cs) (hc : isBlank c = false) : c ∈ stripChars cs := by
  have hleft : c ∈ stripLeft cs := mem_dropWhile_isBlank h hc
  exact List.mem_reverse.2 (mem_dropWhile_isBlank (List.mem_reverse.2 hleft) hc)

theorem stripRight_isPrefix (cs : List Char) : stripRight cs <+: cs := by
  have hsuffix := List.dropWhile_suffix isBlank (l := cs.reverse)
  rw [← List.reverse_prefix, List.reverse_reverse] at hsuffix
  exact hsuffix

theorem mem_of_mem_stripChars {c : Char} {cs : List Char} (h : c ∈ stripChars cs) : c ∈ cs :=
  (List.dropWhile_suffix isBlank).subset ((stripRight_isPrefix _).subset h)

theorem isBlank_head?_stripChars {c : Char} {cs : List Char} (h : (stripChars cs).head? = some c) :
    isBlank c = false := by
  have hhead : (stripLeft cs).head? = some c := by
    obtain ⟨rest, hrest⟩ := stripRight_isPrefix (stripLeft cs)
    rw [← hrest, List.head?_append]
    exact congrArg (Option.or · rest.head?) h
  have hnot := List.head?_dropWhile_not isBlank cs
  rw [stripLeft] at hhead
  rw [hhead] at hnot
  exact hnot

theorem strip_eq_empty_iff {s : String} : strip s = "" ↔ isBlankText s = true := by
  rw [strip, isBlankText, List.all_eq_true]
  constructor
  · intro hempty c hc
    have hnil : stripChars s.toList = [] := by simpa using hempty
    cases hblank : isBlank c with
    | true => rfl
    | false =>
      have hmem := mem_stripChars hc hblank
      rw [hnil] at hmem
      exact nomatch hmem
  · intro hall
    cases hstrip : stripChars s.toList with
    | nil => rfl
    | cons c cs =>
      have hmem : c ∈ s.toList := mem_of_mem_stripChars (by rw [hstrip]; exact List.mem_cons_self)
      have hblank : isBlank c = false := isBlank_head?_stripChars (by rw [hstrip]; rfl)
      rw [hall c hmem] at hblank
      exact nomatch hblank

theorem dropWhile_isBlank_eq_self {cs : List Char} (h : ∀ c, cs.head? = some c → isBlank c = false) :
    cs.dropWhile isBlank = cs := by
  cases cs with
  | nil => rfl
  | cons c cs =>
    have hc : isBlank c = false := h c rfl
    rw [List.dropWhile_cons, if_neg (by simp [hc])]

theorem strip_eq_self {s : String} (hfirst : ∀ c, s.toList.head? = some c → isBlank c = false)
    (hlast : ∀ c, s.toList.getLast? = some c → isBlank c = false) : strip s = s := by
  have hreverse : ∀ c, s.toList.reverse.head? = some c → isBlank c = false := by
    intro c hc
    rw [List.head?_reverse] at hc
    exact hlast c hc
  rw [strip, stripChars, stripLeft, dropWhile_isBlank_eq_self hfirst, stripRight, dropWhile_isBlank_eq_self hreverse,
    List.reverse_reverse, String.ofList_toList]

theorem isBlank_getLast?_strip {s : String} {c : Char} (h : (strip s).toList.getLast? = some c) :
    isBlank c = false := by
  rw [strip, String.toList_ofList, stripChars, stripRight, List.getLast?_reverse] at h
  have hnot := List.head?_dropWhile_not isBlank (stripLeft s.toList).reverse
  rw [h] at hnot
  exact hnot

/-- Something is left of a text, and it does not end in a blank. -/
theorem exists_getLast?_strip {s : String} (h : strip s ≠ "") :
    ∃ c, (strip s).toList.getLast? = some c ∧ isBlank c = false := by
  obtain ⟨c, hc⟩ := Option.ne_none_iff_exists'.1 (fun hnil => h (by simpa using hnil) :
    (strip s).toList.getLast? ≠ none)
  exact ⟨c, hc, isBlank_getLast?_strip hc⟩

/-- What is left has no blanks at its ends. -/
theorem strip_strip (s : String) : strip (strip s) = strip s :=
  strip_eq_self (fun _ hc => isBlank_head?_stripChars (by rw [← hc, strip, String.toList_ofList]))
    fun _ hc => isBlank_getLast?_strip hc

theorem dropWhile_isBlank_eq_nil {cs : List Char} (h : ∀ c ∈ cs, isBlank c = true) : cs.dropWhile isBlank = [] := by
  induction cs with
  | nil => rfl
  | cons c cs ih =>
    obtain ⟨hc, hcs⟩ := List.forall_mem_cons.1 h
    rw [List.dropWhile_cons, if_pos hc, ih hcs]

/-- Blanks at the two ends make no difference. -/
theorem strip_padded {pad pad' : String} (hpad : isBlankText pad = true) (hpad' : isBlankText pad' = true) (s : String) :
    strip (pad ++ s ++ pad') = strip s := by
  have hbefore : ∀ c ∈ pad.toList, isBlank c = true := List.all_eq_true.1 hpad
  have hbehind : ∀ c ∈ pad'.toList, isBlank c = true := List.all_eq_true.1 hpad'
  have hleft : stripLeft (pad.toList ++ (s.toList ++ pad'.toList)) = stripLeft (s.toList ++ pad'.toList) :=
    List.dropWhile_append_of_pos hbefore
  rw [strip, String.toList_append, String.toList_append, List.append_assoc, stripChars, hleft, strip, stripChars,
    stripLeft, List.dropWhile_append]
  split
  case isTrue hnil =>
    rw [dropWhile_isBlank_eq_nil hbehind, stripLeft, List.isEmpty_iff.1 hnil]
  case isFalse =>
    have hreverse : ∀ c ∈ pad'.toList.reverse, isBlank c = true := fun c hc => hbehind c (List.mem_reverse.1 hc)
    rw [stripRight, List.reverse_append, List.dropWhile_append_of_pos hreverse]
    rfl

end KitConsole.Text
