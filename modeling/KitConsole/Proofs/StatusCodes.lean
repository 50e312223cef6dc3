import KitConsole.Proofs.Numerals
import KitConsole.Proofs.TransportHint

/-!
# Status codes among the words of a message

* `Text.words` — the words of a text, in order; `Text.mem_words_iff` says that they are its maximal runs of word
  characters.
* `Hint.isCode` — the words that are status codes.
* `Hint.extractStatus_eq_findSome?` — the search for a status code goes from word to word.
* `Hint.extractStatus_first_code` — what it finds is the first word that is a code, read as a number.
-/

namespace KitConsole

/-! ## the words of a text -/

namespace Text

/-- What stands between characters that belong to no word. -/
def words (cs : List Char) : List (List Char) := (cs.splitOnP fun c => !isWord c).filter fun w => !w.isEmpty

/-- Between `before` and `after`, the word characters `w` begin and end where no word goes on. -/
structure IsRun (before w after : List Char) : Prop where
  nonempty : w ≠ []
  word : ∀ c ∈ w, isWord c = true
  left : ∀ c, before.getLast? = some c → isWord c = false
  right : ∀ c, after.head? = some c → isWord c = false

variable {before w after : List Char}

theorem not_mem_of_word {c : Char} (hw : ∀ x ∈ w, isWord x = true) (hc : isWord c = false) : c ∉ w := by
  intro hmem
  have hword := hw c hmem
  rw [hc] at hword
  exact nomatch hword

theorem words_nil : words [] = [] := rfl

/-- A word and no more. -/
theorem words_of_word (hw : ∀ c ∈ w, isWord c = true) (hne : w ≠ []) : words w = [w] := by
  rw [words, List.splitOnP_eq_singleton fun c hc => by simp [hw c hc]]
  simp [hne]

theorem mem_words_of_word {u : List Char} (hu : ∀ c ∈ u, isWord c = true) : w ∈ words u ↔ w = u ∧ u ≠ [] := by
  by_cases hne : u = []
  · simp [hne, words_nil]
  · simp [hne, words_of_word hu hne]

/-- The words in front of a character that belongs to no word, and those behind it. -/
theorem words_append {c : Char} (hc : isWord c = false) (xs ys : List Char) :
    words (xs ++ c :: ys) = words xs ++ words ys := by
  rw [words, List.splitOnP_append_cons xs ys (by simp [hc]), List.filter_append]
  rfl

/-- A text is made of word characters, or begins with such ones and a character that belongs to no word. -/
theorem words_induction {P : List Char → Prop} (word : ∀ w, (∀ c ∈ w, isWord c = true) → P w)
    (cut : ∀ w c rest, (∀ x ∈ w, isWord x = true) → isWord c = false → P rest → P (w ++ c :: rest)) :
    ∀ cs, P cs := by
  intro cs
  induction hn : cs.length using Nat.strongRecOn generalizing cs with
  | ind n ih =>
    have hw : ∀ c ∈ cs.takeWhile isWord, isWord c = true := fun c hc => List.all_eq_true.1 List.all_takeWhile c hc
    have hcs : cs.takeWhile isWord ++ cs.dropWhile isWord = cs := List.takeWhile_append_dropWhile
    rcases hrest : cs.dropWhile isWord with _ | ⟨c, rest⟩ <;> rw [hrest] at hcs
    · rw [List.append_nil] at hcs
      rw [← hcs]
      exact word _ hw
    · have hc : isWord c = false := by
        have hnot := List.head?_dropWhile_not isWord cs
        rw [hrest] at hnot
        exact hnot
      have hlength : rest.length < n := by
        rw [← hn, ← hcs]
        simp
        omega
      rw [← hcs]
      exact cut _ c rest hw hc (ih _ hlength rest rfl)

/-- A run is all of the text that it stands in, if no character of that belongs to no word. -/
theorem IsRun.eq_nil (h : IsRun before w after) :
    ((∀ c ∈ before, isWord c = true) → before = []) ∧ ((∀ c ∈ after, isWord c = true) → after = []) := by
  constructor
  · intro hbefore
    rcases hlast : before.getLast? with _ | c
    · exact List.getLast?_eq_none_iff.1 hlast
    · exact absurd (List.mem_of_getLast? hlast) (not_mem_of_word hbefore (h.left c hlast))
  · intro hafter
    rcases hfirst : after.head? with _ | c
    · exact List.head?_eq_none_iff.1 hfirst
    · exact absurd (List.mem_of_head? hfirst) (not_mem_of_word hafter (h.right c hfirst))

/-- A run does not reach over a character that belongs to no word. -/
theorem IsRun.beside {u rest : List Char} {c : Char} (h : IsRun before w after) (hc : isWord c = false)
    (htext : u ++ c :: rest = before ++ w ++ after) :
    (∃ t, u = before ++ w ++ t ∧ after = t ++ c :: rest) ∨ ∃ s, before = u ++ c :: s ∧ rest = s ++ w ++ after := by
  have hnot : c ∉ w := not_mem_of_word h.word hc
  rcases List.append_eq_append_iff.1 htext with ⟨t, hbefore, hrest⟩ | ⟨t, hu, hafter⟩
  · -- the character lies in `before ++ w`, or it is where `after` begins
    cases t with
    | nil => exact .inl ⟨[], by simpa using hbefore.symm, by simpa using hrest.symm⟩
    | cons d t =>
      simp only [List.cons_append, List.cons.injEq] at hrest
      obtain ⟨rfl, rfl⟩ := hrest
      rcases List.append_eq_append_iff.1 hbefore with ⟨s, -, hw⟩ | ⟨s, hs, hw⟩
      · exact absurd (by simp [hw]) hnot
      · cases s with
        | nil =>
          obtain rfl : c :: t = w := hw
          exact absurd List.mem_cons_self hnot
        | cons e s =>
          simp only [List.cons_append, List.cons.injEq] at hw
          obtain ⟨rfl, rfl⟩ := hw
          exact .inr ⟨s, hs, rfl⟩
  · exact .inl ⟨t, hu, hafter⟩

/-- **The words of a text are its maximal runs of word characters.** -/
theorem mem_words_iff {cs : List Char} :
    w ∈ words cs ↔ ∃ before after, cs = before ++ w ++ after ∧ IsRun before w after := by
  induction cs using words_induction with
  | word u hu =>
    rw [mem_words_of_word hu]
    constructor
    · rintro ⟨rfl, hne⟩
      exact ⟨[], [], by simp, hne, hu, by simp, by simp⟩
    · rintro ⟨before, after, rfl, hrun⟩
      obtain rfl := hrun.eq_nil.1 fun c hc => hu c (by simp [hc])
      obtain rfl := hrun.eq_nil.2 fun c hc => hu c (by simp [hc])
      exact ⟨by simp, by simpa using hrun.nonempty⟩
  | cut u c rest hu hc ih =>
    rw [words_append hc, List.mem_append, ih, mem_words_of_word hu]
    constructor
    · rintro (⟨rfl, hne⟩ | ⟨before, after, rfl, hrun⟩)
      · exact ⟨[], c :: rest, by simp, hne, hu, by simp, by simp [hc]⟩
      · refine ⟨u ++ c :: before, after, by simp, hrun.nonempty, hrun.word, ?_, hrun.right⟩
        intro d hd
        rcases hlast : before.getLast? with _ | e <;> simp [List.getLast?_append, List.getLast?_cons, hlast] at hd
        · exact hd ▸ hc
        · exact hd ▸ hrun.left e hlast
    · rintro ⟨before, after, htext, hrun⟩
      rcases hrun.beside hc htext with ⟨t, rfl, rfl⟩ | ⟨s, rfl, rfl⟩
      · left
        obtain rfl := hrun.eq_nil.1 fun d hd => hu d (by simp [hd])
        -- what follows the run begins where no word goes on, so nothing of `u` is left for it
        have ht : t = [] := by
          cases t with
          | nil => rfl
          | cons d t => exact absurd (by simp) (not_mem_of_word hu (hrun.right d rfl))
        rw [ht]
        exact ⟨by simp, by simpa using hrun.nonempty⟩
      · refine .inr ⟨s, after, rfl, hrun.nonempty, hrun.word, ?_, hrun.right⟩
        intro d hd
        apply hrun.left d
        simp [List.getLast?_append, List.getLast?_cons, hd]

end Text

/-! ## the codes among the words -/

namespace Hint

open KitConsole.Text

/-- A word of three characters: an ASCII digit from 1 to 5, then two decimal digits of any script. -/
def isCode : List Char → Bool
  | [a, b, c] => decide ('1' ≤ a ∧ a ≤ '5') && isDecimal b && isDecimal c
  | _ => false

def codeOfWord? : List Char → Option Nat
  | [a, b, c] => codeOf? a b c
  | _ => none

theorem isSome_codeOfWord? (w : List Char) : (codeOfWord? w).isSome = isCode w := by
  match w with
  | [a, b, c] =>
    by_cases ha : '1' ≤ a ∧ a ≤ '5'
    · cases hb : digitValue? b <;> cases hc : digitValue? c <;>
        simp [codeOfWord?, codeOf?, isCode, isDecimal, ha, hb, hc]
    · simp [codeOfWord?, codeOf?, isCode, ha]
  | [] | [_] | [_, _] | _ :: _ :: _ :: _ :: _ => rfl

/-- Within a word no code begins. -/
theorem codeFrom?_inside {cs : List Char} (h : ∀ c ∈ cs, isWord c = true) : codeFrom? true cs = none := by
  induction cs with
  | nil => rfl
  | cons c cs ih =>
    obtain ⟨hc, hcs⟩ := List.forall_mem_cons.1 h
    rw [codeFrom?, hc]
    exact ih hcs

/-- The search through a word finds the word itself, if it is a code. -/
theorem codeFrom?_word {w : List Char} (h : ∀ c ∈ w, isWord c = true) : codeFrom? false w = codeOfWord? w := by
  match w with
  | [] => rfl
  | a :: w =>
    obtain ⟨ha, hw⟩ := List.forall_mem_cons.1 h
    have hcode : codeAt? (a :: w) = codeOfWord? (a :: w) := by
      match w with
      | [] | [_] | [_, _] => rfl
      | b :: c :: d :: w =>
        have hd : isWord d = true := hw d (by simp)
        simp [codeAt?, codeOfWord?, startsWithWord, hd]
    rw [codeFrom?, ha, codeFrom?_inside hw, hcode]
    cases codeOfWord? (a :: w) <;> rfl

/-- **The search for a status code goes from word to word.** -/
theorem codeFrom?_eq_findSome? (cs : List Char) : codeFrom? false cs = (words cs).findSome? codeOfWord? := by
  have hword : ∀ w : List Char, (∀ c ∈ w, isWord c = true) →
      codeFrom? false w = (words w).findSome? codeOfWord? := by
    intro w hw
    by_cases hne : w = []
    · rw [hne]
      rfl
    · rw [codeFrom?_word hw, words_of_word hw hne]
      simp
  induction cs using words_induction with
  | word w hw => exact hword w hw
  | cut w c rest hw hc ih => rw [codeFrom?_append hc, hword w hw, ih, words_append hc, List.findSome?_append]

/-- What is found is the value of the first word that is a code. -/
theorem extractStatus_eq_bind (text : String) :
    extractStatus text = ((words text.toList).find? isCode).bind codeOfWord? := by
  rw [extractStatus, codeFrom?_eq_findSome?]
  induction words text.toList with
  | nil => rfl
  | cons w ws ih =>
    have hcode := isSome_codeOfWord? w
    rcases hw : codeOfWord? w with _ | n <;> rw [hw] at hcode
    · rw [List.findSome?_cons_of_isNone (by simp [hw]), List.find?_cons_of_neg (by simp [← hcode]), ih]
    · rw [List.findSome?_cons_of_isSome (by simp [hw]), List.find?_cons_of_pos hcode.symm]
      rfl

theorem extractStatus_eq_none_iff (text : String) :
    extractStatus text = none ↔ ∀ w ∈ words text.toList, isCode w = false := by
  rw [extractStatus, codeFrom?_eq_findSome?, List.findSome?_eq_none_iff]
  refine forall₂_congr fun w _ => ?_
  rw [← isSome_codeOfWord?, Option.isSome_eq_false_iff, Option.isNone_iff_eq_none]

theorem digitValue?_of_leading {a : Char} (h : '1' ≤ a ∧ a ≤ '5') : digitValue? a = some (a.toNat - 48) := by
  have hlow : 49 ≤ a.toNat := h.1
  have hhigh : a.toNat ≤ 53 := h.2
  have hdigit : a.isDigit = true :=
    Char.isDigit_iff_toNat.2 ⟨show 48 ≤ a.toNat by omega, show a.toNat ≤ 57 by omega⟩
  exact Number.digitValue?_of_isDigit hdigit

/-- The code that a word stands for is the number that it is read as. -/
theorem readInt_of_codeOfWord? {w : List Char} {n : Nat} (h : codeOfWord? w = some n) :
    Number.readInt w = .ok (n : Int) ∧ 100 ≤ n ∧ n ≤ 599 := by
  have hcode : isCode w = true := by rw [← isSome_codeOfWord?, h]; rfl
  match w, hcode with
  | [a, b, c], hcode =>
    simp only [isCode, Bool.and_eq_true, decide_eq_true_eq] at hcode
    obtain ⟨⟨ha, hb⟩, hc⟩ := hcode
    have hlow : 49 ≤ a.toNat := ha.1
    have hhigh : a.toNat ≤ 53 := ha.2
    have hfirst := digitValue?_of_leading ha
    have hdecimal : isDecimal a = true := Option.isSome_iff_exists.2 ⟨_, hfirst⟩
    have hsecond := Number.digitValue?_of_decimal hb
    have hthird := Number.digitValue?_of_decimal hc
    have hvalue : n = (a.toNat - 48) * 100 + Number.digitOf b * 10 + Number.digitOf c := by
      rw [codeOfWord?, codeOf?, if_pos ha, hsecond, hthird] at h
      exact (Option.some.inj h).symm
    have hread : Number.readNat [a, b, c] = .ok n := by
      rw [Number.readNat_of_decimal (by simp [hdecimal, hb, hc]) (by simp), if_pos (by simp [Number.maxDigits]), hvalue]
      simp [Number.digitsOf, Number.ofPlaces, Number.digitOf, hfirst]
      omega
    have := digitValue?_le hsecond
    have := digitValue?_le hthird
    refine ⟨?_, by omega, by omega⟩
    rw [Number.readInt_of_decimal hdecimal, hread]
    rfl

/-- **The status code in a message is the first word of it that is a code**: of its maximal runs of word characters the
first that is an ASCII digit from 1 to 5 and two decimal digits, read as a number; there is none if no run is like this,
nor in no message. -/
theorem extractStatus_first_code (message : Option String) :
    (∀ n, extractStatus (message.getD "") = some n ↔
      ∃ w, (words (message.getD "").toList).find? isCode = some w ∧ Number.readInt w = .ok (n : Int)) ∧
    (extractStatus (message.getD "") = none ↔
      ∀ before w after, (message.getD "").toList = before ++ w ++ after → IsRun before w after → isCode w = false) ∧
    (∀ w, isCode w = true → ∃ n, Number.readInt w = .ok n) ∧
    ∀ n, extractStatus (message.getD "") = some n → 100 ≤ n ∧ n ≤ 599 := by
  generalize message.getD "" = text
  have hvalue : ∀ w, isCode w = true → ∃ n, codeOfWord? w = some n := fun w hw =>
    Option.isSome_iff_exists.1 ((isSome_codeOfWord? w).trans hw)
  refine ⟨fun n => ?_, ?_, fun w hw => ?_, fun n hn => ?_⟩
  · rw [extractStatus_eq_bind, Option.bind_eq_some_iff]
    refine exists_congr fun w => and_congr_right fun hw => ?_
    obtain ⟨m, hm⟩ := hvalue w (List.find?_some hw)
    rw [hm, (readInt_of_codeOfWord? hm).1, Option.some.injEq, Except.ok.injEq]
    exact Int.ofNat_inj.symm
  · rw [extractStatus_eq_none_iff]
    constructor
    · exact fun h before w after htext hrun => h w (mem_words_iff.2 ⟨before, after, htext, hrun⟩)
    · intro h w hw
      obtain ⟨before, after, htext, hrun⟩ := mem_words_iff.1 hw
      exact h before w after htext hrun
  · obtain ⟨n, hn⟩ := hvalue w hw
    exact ⟨n, (readInt_of_codeOfWord? hn).1⟩
  · rw [extractStatus_eq_bind] at hn
    obtain ⟨w, -, hw⟩ := Option.bind_eq_some_iff.1 hn
    exact (readInt_of_codeOfWord? hw).2

/-- A code of mixed scripts, after a longer number and a number in a word. -/
example : extractStatus "kit 14004, v_404: 5٠३" = some 503 := by decide +kernel

end Hint

end KitConsole
