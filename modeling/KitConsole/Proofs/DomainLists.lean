import KitConsole.Proofs.AnswerPlaces

/-!
# Lists of domains

* `Cut` — the pieces of a text between its commas, each comma taken with all the blanks behind it; `cut_iff` says that
  the console finds these pieces, and that there are no others.
* `Listed` — the pieces of a text that are not empty; `listed_iff` says that a list is split into them.
* `Cut.clean`, `cut_intercalate` — a piece holds no comma and does not begin with a blank; such pieces, joined by commas,
  are the pieces of what they are joined to.
* `collectFields_domains` — the domains that are collected are those that are read from the form they are sent in.
-/

namespace KitConsole.Console

open KitConsole.Text

/-! ## cutting at commas -/

/-- The pieces of a text between its commas.  The blanks behind a comma go with it, as many as there are. -/
inductive Cut : List Char → List (List Char) → Prop
  | last {piece : List Char} : ',' ∉ piece → Cut piece [piece]
  | comma {piece blanks rest : List Char} {pieces : List (List Char)} : ',' ∉ piece → (∀ c ∈ blanks, isBlank c = true) →
      (∀ c, rest.head? = some c → isBlank c = false) → Cut rest pieces →
      Cut (piece ++ ',' :: (blanks ++ rest)) (piece :: pieces)

variable {cs piece : List Char} {pieces : List (List Char)}

theorem ne_comma_of_isBlank {c : Char} (h : isBlank c = true) : c ≠ ',' := by
  rintro rfl
  exact absurd h (by decide)

theorem Cut.ne_nil (h : Cut cs pieces) : pieces ≠ [] := by
  cases h <;> simp

/-- A character that is no comma belongs to the first piece. -/
theorem Cut.cons {c : Char} (hc : c ≠ ',') (h : Cut cs (piece :: pieces)) :
    Cut (c :: cs) ((c :: piece) :: pieces) := by
  have hpiece : ∀ {p : List Char}, ',' ∉ p → ',' ∉ c :: p := fun hp => by simp [hp, hc.symm]
  cases h with
  | last h => exact .last (hpiece h)
  | comma h hblanks hrest hpieces => exact .comma (hpiece h) hblanks hrest hpieces

/-- The scan finds the pieces of a text, and behind a comma those of what the text is without the blanks in front. -/
theorem cut_piecesFrom (cs : List Char) : Cut cs (piecesFrom false cs) ∧
    ∃ blanks rest, cs = blanks ++ rest ∧ (∀ c ∈ blanks, isBlank c = true) ∧
      (∀ c, rest.head? = some c → isBlank c = false) ∧ Cut rest (piecesFrom true cs) := by
  induction cs with
  | nil => exact ⟨.last (by simp), [], [], rfl, by simp, by simp, .last (by simp)⟩
  | cons c cs ih =>
    obtain ⟨ihfalse, blanks, rest, hcs, hblanks, hrest, ihtrue⟩ := ih
    -- a character that is not blank is treated alike in both places
    have hsame : isBlank c = false → piecesFrom true (c :: cs) = piecesFrom false (c :: cs) := by
      intro hc
      simp [piecesFrom, hc]
    have hscan : Cut (c :: cs) (piecesFrom false (c :: cs)) := by
      by_cases hc : c = ','
      · rw [piecesFrom, if_pos hc, hc, hcs]
        rw [hcs] at ihtrue
        exact .comma List.not_mem_nil hblanks hrest ihtrue
      · obtain ⟨p, ps, hpieces⟩ := List.exists_cons_of_ne_nil ihfalse.ne_nil
        rw [piecesFrom, if_neg hc, Bool.false_and, if_neg Bool.false_ne_true, hpieces]
        rw [hpieces] at ihfalse
        exact ihfalse.cons hc
    refine ⟨hscan, ?_⟩
    cases hc : isBlank c with
    | true =>
      refine ⟨c :: blanks, rest, by rw [hcs]; rfl, List.forall_mem_cons.2 ⟨hc, hblanks⟩, hrest, ?_⟩
      rw [piecesFrom, if_neg (ne_comma_of_isBlank hc), Bool.true_and, if_pos hc]
      exact ihtrue
    | false =>
      refine ⟨[], c :: cs, rfl, by simp, by simpa using hc, ?_⟩
      rw [hsame hc]
      exact hscan

theorem piecesFrom_of_not_mem (h : ',' ∉ piece) : piecesFrom false piece = [piece] := by
  induction piece with
  | nil => rfl
  | cons c piece ih =>
    simp only [List.mem_cons, not_or] at h
    simp [piecesFrom, Ne.symm h.1, ih h.2]

theorem piecesFrom_append_comma (h : ',' ∉ piece) (cs : List Char) :
    piecesFrom false (piece ++ ',' :: cs) = piece :: piecesFrom true cs := by
  induction piece with
  | nil => simp [piecesFrom]
  | cons c piece ih =>
    simp only [List.mem_cons, not_or] at h
    simp [piecesFrom, Ne.symm h.1, ih h.2]

theorem piecesFrom_append_blanks {blanks rest : List Char} (hblanks : ∀ c ∈ blanks, isBlank c = true)
    (hrest : ∀ c, rest.head? = some c → isBlank c = false) :
    piecesFrom true (blanks ++ rest) = piecesFrom false rest := by
  induction blanks with
  | nil =>
    cases rest with
    | nil => rfl
    | cons c rest => simp [piecesFrom, hrest c rfl]
  | cons c blanks ih =>
    obtain ⟨hc, hblanks⟩ := List.forall_mem_cons.1 hblanks
    rw [List.cons_append, piecesFrom, if_neg (ne_comma_of_isBlank hc), Bool.true_and, if_pos hc, ih hblanks]

/-- **The scan finds the one way to cut a text.** -/
theorem cut_iff : Cut cs pieces ↔ piecesFrom false cs = pieces := by
  constructor
  · intro h
    induction h with
    | last hpiece => exact piecesFrom_of_not_mem hpiece
    | comma hpiece hblanks hrest _ ih =>
      rw [piecesFrom_append_comma hpiece, piecesFrom_append_blanks hblanks hrest, ih]
  · rintro rfl
    exact (cut_piecesFrom cs).1

/-- The pieces of a text that are not empty. -/
def Listed (text : String) (ds : List String) : Prop :=
  ∃ pieces, Cut text.toList pieces ∧ ds = (pieces.filter (· ≠ [])).map .ofList

theorem listed_iff {text : String} {ds : List String} : Listed text ds ↔ splitList text = ds := by
  have hfilter : (piecesFrom false text.toList).filter (· ≠ []) =
      (piecesFrom false text.toList).filter (!·.isEmpty) := List.filter_congr fun piece _ => by cases piece <;> rfl
  constructor
  · rintro ⟨pieces, hcut, rfl⟩
    rw [← cut_iff.1 hcut, hfilter]
    rfl
  · rintro rfl
    exact ⟨_, cut_iff.2 rfl, by rw [hfilter]; rfl⟩

/-! ## joining by commas -/

/-- No comma is left in a text, and it does not begin with a blank. -/
def Clean (cs : List Char) : Prop := ',' ∉ cs ∧ ∀ c, cs.head? = some c → isBlank c = false

theorem Cut.clean (h : Cut cs pieces) (hfirst : ∀ c, cs.head? = some c → isBlank c = false) :
    ∀ piece ∈ pieces, Clean piece := by
  induction h with
  | last hpiece => exact List.forall_mem_singleton.2 ⟨hpiece, hfirst⟩
  | @comma piece blanks rest pieces hpiece _ hrest _ ih =>
    refine List.forall_mem_cons.2 ⟨⟨hpiece, fun c hc => hfirst c ?_⟩, ih hrest⟩
    rw [List.head?_append, hc]
    rfl

/-- Clean pieces that are joined by commas are cut apart again. -/
theorem cut_intercalate (hne : pieces ≠ []) (hclean : ∀ piece ∈ pieces, Clean piece ∧ piece ≠ []) :
    Cut ([','].intercalate pieces) pieces := by
  induction pieces with
  | nil => exact absurd rfl hne
  | cons piece pieces ih =>
    obtain ⟨⟨hpiece, -⟩, hpieces⟩ := List.forall_mem_cons.1 hclean
    cases pieces with
    | nil =>
      rw [List.intercalate_singleton]
      exact .last hpiece.1
    | cons next pieces =>
      obtain ⟨⟨hnext, hnextne⟩, -⟩ := List.forall_mem_cons.1 hpieces
      have hhead : ([','].intercalate (next :: pieces)).head? = next.head? := by
        cases pieces with
        | nil => rw [List.intercalate_singleton]
        | cons => rw [List.intercalate_cons_cons, List.append_assoc, List.head?_append_of_ne_nil _ hnextne]
      have hcut := ih (List.cons_ne_nil _ _) hpieces
      have hjoined : [','].intercalate (piece :: next :: pieces) =
          piece ++ ',' :: ([] ++ [','].intercalate (next :: pieces)) := by
        rw [List.intercalate_cons_cons, List.append_assoc]
        rfl
      rw [hjoined]
      apply Cut.comma hpiece.1 (List.forall_mem_nil _) ?_ hcut
      rw [hhead]
      exact hnext.2

theorem clean_of_mem_splitList {line d : String} (h : d ∈ splitList (strip line)) : Clean d.toList := by
  have hfirst : ∀ c, (strip line).toList.head? = some c → isBlank c = false := by
    intro c hc
    rw [strip, String.toList_ofList] at hc
    exact isBlank_head?_stripChars hc
  obtain ⟨pieces, hcut, hds⟩ := listed_iff.2 (rfl : splitList (strip line) = _)
  rw [hds] at h
  obtain ⟨piece, hpiece, rfl⟩ := List.mem_map.1 h
  rw [String.toList_ofList]
  exact hcut.clean hfirst piece (List.mem_filter.1 hpiece).1

/-- **Clean texts can be read off the text that they are joined to.** -/
theorem listed_intercalate {ds : List String} (h : ∀ d ∈ ds, Clean d.toList ∧ d ≠ "") :
    Listed (",".intercalate ds) ds := by
  by_cases hnil : ds = []
  · subst hnil
    exact ⟨[[]], .last List.not_mem_nil, rfl⟩
  · have hpieces : ∀ piece ∈ ds.map String.toList, Clean piece ∧ piece ≠ [] := by
      intro piece hpiece
      obtain ⟨d, hd, rfl⟩ := List.mem_map.1 hpiece
      exact ⟨(h d hd).1, by simpa using (h d hd).2⟩
    refine ⟨ds.map String.toList, ?_, ?_⟩
    · rw [String.toList_intercalate]
      exact cut_intercalate (by simpa using hnil) hpieces
    · rw [List.filter_eq_self.2 fun piece hpiece => decide_eq_true (hpieces piece hpiece).2, List.map_map]
      exact (List.map_id'' (fun d => String.ofList_toList) ds).symm

/-! ## the domains of a kit -/

theorem collected_entered (lines : List String) : ∀ e ∈ entered lines, Collected e.2 := by
  rw [← fieldsFrom_eq_entered]
  exact collected_fieldsFrom _ _ _

theorem get?_domains_entered (lines : List String) : Entries.get? "domains" (entered lines) =
    if answerAt lines 1 = "" then none else some (.list ((splitList (answerAt lines 1)).map .string)) := by
  by_cases hblank : answerAt lines 1 = ""
  · rw [if_pos hblank, Entries.get?_eq_none_iff, keys_entered, if_pos hblank]
    intro hmem
    rcases List.mem_append.1 hmem with hmem | hmem
    · split at hmem <;> simp at hmem
    · obtain ⟨i, -, hi⟩ := List.mem_map.1 hmem
      exact familyField_not_mem i (by simp [hi])
  · rw [if_neg hblank]
    exact Entries.get?_of_mem (nodup_keys_entered lines) (by simp [entered, hblank])

/-- **The domains that are collected can be read off the form**: they are the pieces of the line that are not empty, and
those of the form value as well.  They hold no comma and do not begin with a blank.  A blank line stands for none, and
leaves nothing in the form. -/
theorem collectFields_domains (c : Console) :
    (c.source = .terminal ∧ (turn collectFields c).result = .error .endOfInput) ∨
      ∃ fields, (turn collectFields c).result = .ok fields ∧
        (answerAt c.lines 1 = "" ∧ Entries.get? "domains" fields = none ∧
            Entries.get? "domains" (Remote.formOf fields) = none ∨
          answerAt c.lines 1 ≠ "" ∧ ∃ ds sent,
            Entries.get? "domains" fields = some (.list (ds.map .string)) ∧
            Entries.get? "domains" (Remote.formOf fields) = some sent ∧
            Listed (answerAt c.lines 1) ds ∧ Listed sent ds ∧
            ∀ d ∈ ds, ',' ∉ d.toList ∧ ∀ x, d.toList.head? = some x → isBlank x = false) := by
  have htakes := takes_collectFields c.lines
  rw [fieldsFrom_eq_entered] at htakes
  obtain hfields | hended := htakes.turn
  · refine .inr ⟨entered c.lines, hfields, ?_⟩
    rw [formOf_of_collected (collected_entered c.lines), Entries.get?_map, get?_domains_entered]
    by_cases hblank : answerAt c.lines 1 = ""
    · rw [if_pos hblank]
      exact .inl ⟨hblank, rfl, rfl⟩
    · rw [if_neg hblank]
      have hclean : ∀ d ∈ splitList (answerAt c.lines 1), Clean d.toList := fun d hd => clean_of_mem_splitList hd
      refine .inr ⟨hblank, splitList (answerAt c.lines 1), _, rfl, rfl, listed_iff.2 rfl, ?_, hclean⟩
      rw [formValue_texts]
      exact listed_intercalate fun d hd => ⟨hclean d hd, ne_empty_of_mem_splitList hd⟩
  · exact .inl hended

end KitConsole.Console
