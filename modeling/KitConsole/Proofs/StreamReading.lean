import KitConsole.Proofs.CollectedFields

/-!
# Reading from a stream

* `Streams lines c` — the console reads from a stream of which `lines` are left.
* `Reads act lines a rest` — with `lines` left the act comes to `a` and leaves `rest`, whatever has been printed;
  `Reads.bind` puts acts in a row.
* `reads_notify` — notices read nothing; `reads_choose`, `reads_confirm` — which lines a choice and a yes or no are read
  from.
* `Takes` — the same of a stream and at a terminal, at whose end nothing can be read; `takes_collectFields` — which lines
  the fields of a kit are read from.
-/

namespace KitConsole.Console

variable {α β : Type}

/-- The console reads from a stream, and these lines are left. -/
structure Streams (lines : List String) (c : Console) : Prop where
  lines : c.lines = lines
  source : c.source = .stream

/-- With `lines` left the act comes to `a` and leaves `rest`. -/
def Reads (act : Act α) (lines : List String) (a : α) (rest : List String) : Prop :=
  ∀ c, Streams lines c → ∃ c', act.run.run c = (.ok a, c') ∧ Streams rest c'

/-! ## acts in a row -/

theorem run_bind (act : Act α) (f : α → Act β) (c : Console) :
    (act >>= f).run.run c = match act.run.run c with
      | (.ok a, c') => (f a).run.run c'
      | (.error x, c') => (.error x, c') := by
  simp only [ExceptT.run_bind, StateT.run_bind]
  rcases act.run.run c with ⟨x | a, c'⟩ <;> rfl

theorem reads_pure (a : α) (lines : List String) : Reads (pure a) lines a lines :=
  fun c hc => ⟨c, rfl, hc⟩

theorem Reads.bind {act : Act α} {f : α → Act β} {lines mid rest : List String} {a : α} {b : β}
    (h : Reads act lines a mid) (hf : Reads (f a) mid b rest) : Reads (act >>= f) lines b rest := by
  intro c hc
  obtain ⟨c', hact, hc'⟩ := h c hc
  obtain ⟨c'', hnext, hc''⟩ := hf c' hc'
  refine ⟨c'', ?_, hc''⟩
  rw [run_bind, hact]
  exact hnext

/-- An act may go by what the console holds, if what it reads depends on the lines alone. -/
theorem reads_get {f : Console → Act β} {lines rest : List String} {b : β}
    (h : ∀ c, Streams lines c → Reads (f c) lines b rest) : Reads (get >>= f) lines b rest := by
  intro c hc
  obtain ⟨c', hact, hc'⟩ := h c hc c hc
  refine ⟨c', ?_, hc'⟩
  rw [run_bind]
  exact hact

/-- The turn of the console that an act makes. -/
theorem Reads.turn {act : Act α} {lines rest : List String} {a : α} (h : Reads act lines a rest) {c : Console}
    (hc : Streams lines c) : (turn act c).result = .ok a ∧ Streams rest (turn act c).world := by
  obtain ⟨c', hact, hc'⟩ := h c hc
  unfold Console.turn
  rw [hact]
  exact ⟨rfl, hc'⟩

/-- The turn that it makes of a stream with these lines. -/
theorem Reads.turn_eq {act : Act α} {lines rest : List String} {a : α} (h : Reads act lines a rest) (output : String) :
    ∃ output', Console.turn act { lines, output } = {
      result := .ok a
      world := { lines := rest, output := output' } } := by
  obtain ⟨⟨left, source, output'⟩, hact, hleft, hsource⟩ := h { lines, output } ⟨rfl, rfl⟩
  obtain rfl : left = rest := hleft
  obtain rfl : source = .stream := hsource
  refine ⟨output', ?_⟩
  unfold Console.turn
  rw [hact]

/-! ## printing -/

theorem reads_put (text : String) (lines : List String) : Reads (put text) lines () lines :=
  fun _ hc => ⟨_, rfl, hc.lines, hc.source⟩

theorem reads_sayAll (texts lines : List String) : Reads (sayAll texts) lines () lines := by
  induction texts with
  | nil => exact reads_pure () lines
  | cons text texts ih => exact (reads_put _ lines).bind ih

theorem reads_showError (message : String) (lines : List String) : Reads (showError message) lines () lines :=
  (reads_put _ lines).bind (reads_sayAll _ lines)

/-- Notices read nothing. -/
theorem reads_notify (n : Notice) (lines : List String) : Reads (notify n) lines () lines := by
  cases n with
  | showError message => exact reads_showError message lines
  | showKit reply =>
    simp only [notify, showKit]
    split
    · exact reads_put _ lines
    · exact reads_showError _ lines
  | showDeleted reply =>
    simp only [notify, showDeleted]
    split
    · exact reads_put _ lines
    · exact reads_showError _ lines
  | unexpectedResponse => exact (reads_put _ lines).bind (reads_put _ lines)
  | authFailed => exact (reads_put _ lines).bind (reads_put _ lines)
  | _ => exact reads_put _ lines

/-! ## answers -/

/-- The next line without the blanks around it; the default answer at the end of the stream. -/
theorem reads_readAnswer (lines : List String) : Reads readAnswer lines (lines.head?.map Text.strip) lines.tail := by
  refine reads_get fun c hc => ?_
  rw [hc.lines, hc.source]
  cases lines with
  | nil => exact reads_pure none []
  | cons line rest =>
    intro c' _
    exact ⟨{ c with lines := rest, source := .stream }, rfl, rfl, rfl⟩

/-- The answer that the next line gives, blank at the end of the stream. -/
def answerOf (lines : List String) : String := Text.strip (lines.headD "")

theorem getD_strip_head? (lines : List String) : (lines.head?.map Text.strip).getD "" = answerOf lines := by
  cases lines <;> rfl

/-! ## choices -/

theorem reads_printLabels (index : Nat) (labels lines : List String) :
    Reads (printLabels index labels) lines () lines := by
  induction labels generalizing index with
  | nil => exact reads_pure () lines
  | cons label labels ih => exact (reads_put _ lines).bind (ih (index + 1))

/-- The position that the first line with the number of one chooses, and the lines after it; `first` where the stream
ends before. -/
def chosen (n : Nat) (first : Fin n) : List String → Fin n × List String
  | [] => (first, [])
  | line :: rest =>
    match position? n (Text.strip line) with
    | some i => (i, rest)
    | none => chosen n first rest

theorem reads_choosePosition (n : Nat) (first : Fin n) (lines : List String) :
    Reads (choosePosition n first lines) lines (chosen n first lines).1 (chosen n first lines).2 := by
  -- the lines that the choice is counted by are those that are left on the stream
  induction lines with
  | nil => exact (reads_put _ []).bind ((reads_readAnswer []).bind (reads_pure first []))
  | cons line rest ih =>
    refine (reads_put _ _).bind ((reads_readAnswer (line :: rest)).bind ?_)
    simp only [List.head?_cons, Option.map_some, List.tail_cons, chosen]
    rcases position? n (Text.strip line) with _ | i
    · exact (reads_put _ rest).bind ih
    · exact reads_pure i rest

theorem reads_choose (prompt : String) {labels : List String} (h : 0 < labels.length) (lines : List String) :
    Reads (choose prompt labels) lines (chosen labels.length ⟨0, h⟩ lines).1 (chosen labels.length ⟨0, h⟩ lines).2 := by
  cases labels with
  | nil => exact absurd h (by simp)
  | cons label labels =>
    refine (reads_put _ lines).bind ((reads_printLabels 1 (label :: labels) lines).bind (reads_get fun c hc => ?_))
    rw [hc.lines]
    exact reads_choosePosition (labels.length + 1) 0 lines

/-- A yes or no is read from one line; it is a yes unless the line says no. -/
theorem reads_confirm (question : String) (lines : List String) :
    Reads (confirm question) lines ((readYesNo? (answerOf lines)).getD true) lines.tail := by
  refine (reads_put _ lines).bind ((reads_readAnswer lines).bind ?_)
  rw [getD_strip_head?]
  rcases readYesNo? (answerOf lines) with _ | b
  · exact (reads_put _ lines.tail).bind (reads_pure true lines.tail)
  · exact reads_pure b lines.tail

/-! ## answers that are texts -/

/-- With `lines` left, of a stream or at a terminal, the act comes to `a` and leaves `rest`, unless it is at the end of a
terminal. -/
def Takes (act : Act α) (lines : List String) (a : α) (rest : List String) : Prop :=
  ∀ c : Console, c.lines = lines →
    (∃ c', act.run.run c = (.ok a, c') ∧ c'.lines = rest ∧ c'.source = c.source) ∨
      c.source = .terminal ∧ ∃ c', act.run.run c = (.error .endOfInput, c')

theorem Takes.reads {act : Act α} {lines rest : List String} {a : α} (h : Takes act lines a rest) :
    Reads act lines a rest := by
  intro c hc
  obtain ⟨c', hact, hrest, hsource⟩ | ⟨hterminal, -⟩ := h c hc.lines
  · exact ⟨c', hact, hrest, hsource.trans hc.source⟩
  · rw [hc.source] at hterminal
    exact nomatch hterminal

theorem takes_pure (a : α) (lines : List String) : Takes (pure a) lines a lines :=
  fun c hc => .inl ⟨c, rfl, hc, rfl⟩

theorem Takes.bind {act : Act α} {f : α → Act β} {lines mid rest : List String} {a : α} {b : β}
    (h : Takes act lines a mid) (hf : Takes (f a) mid b rest) : Takes (act >>= f) lines b rest := by
  intro c hc
  rw [run_bind]
  obtain ⟨c', hact, hmid, hsource⟩ | ⟨hterminal, c', hact⟩ := h c hc
  · rw [hact, ← hsource]
    exact hf c' hmid
  · rw [hact]
    exact .inr ⟨hterminal, c', rfl⟩

theorem takes_put (text : String) (lines : List String) : Takes (put text) lines () lines :=
  fun _ hc => .inl ⟨_, rfl, hc, rfl⟩

/-- An empty line is a blank answer, whether it is taken as one or as none. -/
theorem takes_answer (lines : List String) :
    Takes (do return (← readAnswer).getD "") lines (answerOf lines) lines.tail := by
  rintro ⟨left, source, output⟩ hc
  obtain rfl : left = lines := hc
  cases left with
  | nil =>
    cases source with
    | stream => exact .inl ⟨_, rfl, rfl, rfl⟩
    | terminal => exact .inr ⟨rfl, _, rfl⟩
  | cons line rest =>
    refine .inl ⟨⟨rest, source, output⟩, ?_, rfl, rfl⟩
    by_cases hempty : source = .terminal ∧ line = ""
    · obtain ⟨rfl, rfl⟩ := hempty
      rfl
    · show (Except.ok ((if source = .terminal ∧ line = "" then none else some (Text.strip line)).getD ""), _) = _
      rw [if_neg hempty]
      rfl

theorem takes_ask (prompt : String) (lines : List String) : Takes (ask prompt) lines (answerOf lines) lines.tail :=
  (takes_put _ lines).bind (takes_answer lines)

/-! ## the fields of a kit -/

/-- The answers that the next `count` lines give. -/
def answersOf : (count : Nat) → (lines : List String) → List String
  | 0, _ => []
  | count + 1, lines => answerOf lines :: answersOf count lines.tail

theorem answersOf_append (lines rest : List String) :
    answersOf lines.length (lines ++ rest) = lines.map Text.strip := by
  induction lines with
  | nil => rfl
  | cons line lines ih => simpa [answersOf, answerOf] using ih

theorem takes_askFamilies (count index : Nat) (lines : List String) :
    Takes (askFamilies count index) lines (familyEntries index (answersOf count lines)) (lines.drop count) := by
  induction count generalizing index lines with
  | zero => exact takes_pure [] lines
  | succ count ih =>
    have hrest := ih (index + 1) lines.tail
    rw [List.drop_tail] at hrest
    exact (takes_ask _ lines).bind (hrest.bind (takes_pure _ _))

/-- The number of families that are asked for after this answer; none after a blank one and after one that is no
numeral. -/
def familyCount (answer : String) : Nat :=
  match Number.readInt answer.toList with
  | .ok count => count.toNat
  | .error _ => 0

theorem takes_collectFamilyIds (lines : List String) : Takes collectFamilyIds lines
    (familyEntries 0 (answersOf (familyCount (answerOf lines)) lines.tail))
      (lines.tail.drop (familyCount (answerOf lines))) := by
  refine (takes_ask _ lines).bind ?_
  unfold familyCount
  by_cases hblank : answerOf lines = ""
  · rw [if_pos hblank, hblank]
    exact takes_pure [] lines.tail
  · rw [if_neg hblank]
    rcases hcount : Number.readInt (answerOf lines).toList with e | count
    · exact (takes_put _ lines.tail).bind (takes_pure [] lines.tail)
    · exact takes_askFamilies count.toNat 0 lines.tail

/-- **Every answer is read from its own line**: the name, the domains, the number of families, and the ids of as many.
-/
theorem takes_collectFields (lines : List String) :
    Takes collectFields lines
      (fieldsFrom (answerOf lines) (answerOf lines.tail)
        (answersOf (familyCount (answerOf lines.tail.tail)) lines.tail.tail.tail))
      (lines.tail.tail.tail.drop (familyCount (answerOf lines.tail.tail))) := by
  refine (takes_put _ lines).bind ((takes_put _ lines).bind ?_)
  refine (takes_ask _ lines).bind ((takes_ask _ lines.tail).bind ?_)
  exact (takes_collectFamilyIds lines.tail.tail).bind (takes_pure _ _)

theorem reads_collectFields (lines : List String) :
    Reads collectFields lines
      (fieldsFrom (answerOf lines) (answerOf lines.tail)
        (answersOf (familyCount (answerOf lines.tail.tail)) lines.tail.tail.tail))
      (lines.tail.tail.tail.drop (familyCount (answerOf lines.tail.tail))) :=
  (takes_collectFields lines).reads

end KitConsole.Console
