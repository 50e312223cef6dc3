import KitConsole.Hint
import KitConsole.ServiceError
import KitConsole.Wire

/-!
# The hint for a status

* `Hint.extractStatus_label` — the first status code of a message that begins with the label of a status is that
  status, whatever follows the label.
* `Detail.stripped_of_firstString` — the detail of an error body is a stripped text.
* `Explains`, `describe_explains` — what the message for a status says, and what the user is told of it: the status
  decides, and never the body.
-/

namespace KitConsole

/-! ## the code of a status -/

namespace Number

/-- A number of three places is written with three digits. -/
theorem toList_intText {n : Nat} (h : 100 ≤ n) (h' : n < 1000) :
    (intText n).toList = [Nat.digitChar (n / 100), Nat.digitChar (n / 10 % 10), Nat.digitChar (n % 10)] := by
  have hdigits : Nat.toDigits 10 n =
      [Nat.digitChar (n / 100), Nat.digitChar (n / 10 % 10), Nat.digitChar (n % 10)] := by
    rw [Nat.toDigits_of_base_le (by decide) (by omega), Nat.toDigits_of_base_le (by decide) (by omega),
      Nat.toDigits_of_lt_base (by omega), Nat.div_div_eq_div_mul]
    rfl
  show (toString n).toList = _
  rw [Nat.toString_eq_ofList_toDigits, String.toList_ofList, hdigits]

end Number

namespace Hint

theorem codeOf?_digitChar {x y z : Nat} (hx : 1 ≤ x) (hx' : x ≤ 5) (hy : y < 10) (hz : z < 10) :
    codeOf? (Nat.digitChar x) (Nat.digitChar y) (Nat.digitChar z) = some (x * 100 + y * 10 + z) := by
  have hfirst : ∀ x : Fin 6, 1 ≤ x.val → '1' ≤ Nat.digitChar x ∧ Nat.digitChar x ≤ '5' ∧
      (Nat.digitChar x).toNat - 48 = x := by decide
  have hvalue : ∀ y : Fin 10, Text.digitValue? (Nat.digitChar y) = some y.val := by decide
  obtain ⟨hlow, hhigh, hcode⟩ := hfirst ⟨x, by omega⟩ hx
  have hy' := hvalue ⟨y, hy⟩
  have hz' := hvalue ⟨z, hz⟩
  dsimp only at hlow hhigh hcode hy' hz'
  rw [codeOf?, if_pos ⟨hlow, hhigh⟩, hy', hz', hcode]
  rfl

/-- The first status code of a message that begins with the label of a status is that status. -/
theorem extractStatus_label {status : Int} (h : 100 ≤ status) (h' : status ≤ 599) (rest : String) :
    extractStatus (Status.label status ++ rest) = some status.toNat := by
  obtain ⟨n, rfl⟩ := Int.eq_ofNat_of_zero_le (by omega : 0 ≤ status)
  have hblank : Text.isWord ' ' = false := by decide +kernel
  have hcode := codeOf?_digitChar (x := n / 100) (y := n / 10 % 10) (z := n % 10) (by omega) (by omega) (by omega)
    (by omega)
  have hsum : n / 100 * 100 + n / 10 % 10 * 10 + n % 10 = n := by omega
  -- nothing stands before the code, and a blank follows it
  rw [extractStatus, Status.label, String.toList_append, String.toList_append, String.toList_append,
    Number.toList_intText (by omega) (by omega)]
  simp [codeFrom?, codeAt?, startsWithWord, hblank, hcode, hsum]

end Hint

/-! ## the detail of an error body -/

namespace Detail

theorem firstString_of_get?_textsOfEntries {k : String} {d : Option String} : ∀ {entries : List (String × Json)},
    Entries.get? k (textsOfEntries entries) = some d → ∃ v, (k, v) ∈ entries ∧ firstString v = d := by
  intro entries h
  induction entries with
  | nil => simp [textsOfEntries, Entries.get?] at h
  | cons e entries ih =>
    obtain ⟨l, v⟩ := e
    by_cases hl : l = k
    · have hv : firstString v = d := by simpa [textsOfEntries, Entries.get?, hl] using h
      exact ⟨v, by simp [hl], hv⟩
    · obtain ⟨v', hmem, hv'⟩ := ih (by simpa [textsOfEntries, Entries.get?, hl] using h)
      exact ⟨v', List.mem_cons_of_mem _ hmem, hv'⟩

mutual

/-- The detail of an error body is what is left of some text in it once the blanks around it are gone. -/
theorem stripped_of_firstString {d : String} : ∀ {v : Json}, firstString v = some d → ∃ s, stripped? s = some d
  | .string s, h => ⟨s, by simpa [firstString] using h⟩
  | .list items, h => stripped_of_firstOfItems (by simpa [firstString] using h)
  | .object entries, h => by
    simp only [firstString] at h
    obtain ⟨k, -, hk⟩ := List.exists_of_findSome?_eq_some h
    obtain ⟨v, hmem, hv⟩ := firstString_of_get?_textsOfEntries (Option.join_eq_some_iff.1 hk)
    exact stripped_of_entry hmem hv

theorem stripped_of_firstOfItems {d : String} : ∀ {items : List Json}, firstOfItems items = some d →
    ∃ s, stripped? s = some d
  | v :: items, h => by
    rcases hv : firstString v with _ | d'
    · exact stripped_of_firstOfItems (by simpa [firstOfItems, hv] using h)
    · exact stripped_of_firstString (hv.trans (by simpa [firstOfItems, hv] using h))

theorem stripped_of_entry {k d : String} {v : Json} : ∀ {entries : List (String × Json)}, (k, v) ∈ entries →
    firstString v = some d → ∃ s, stripped? s = some d
  | (k', v') :: entries, hmem, hv => by
    rcases List.mem_cons.1 hmem with heq | hmem
    · obtain ⟨rfl, rfl⟩ := Prod.mk.inj heq
      exact stripped_of_firstString hv
    · exact stripped_of_entry hmem hv

end

theorem isBlank_getLast?_of_stripped? {s d : String} (h : stripped? s = some d) :
    ∃ c, d.toList.getLast? = some c ∧ Text.isBlank c = false := by
  unfold stripped? at h
  dsimp only at h
  split at h
  · simp at h
  · rename_i hne
    obtain rfl := Option.some.inj h
    exact Text.exists_getLast?_strip hne

end Detail

/-! ## the message for a status -/

namespace Status

theorem isBlank_getLast?_phrase (status : Int) :
    ∃ c, (phrase status).toList.getLast? = some c ∧ Text.isBlank c = false := by
  have hphrases : ∀ p ∈ phrases, p.2.toList.getLast?.map Text.isBlank = some false := by decide +kernel
  have hother : "HTTP Error".toList.getLast?.map Text.isBlank = some false := by decide +kernel
  have hphrase : (phrase status).toList.getLast?.map Text.isBlank = some false := by
    unfold phrase phrase?
    rcases hlookup : phrases.lookup status with _ | p
    · exact hother
    · obtain ⟨before, after, hp, -⟩ := List.lookup_eq_some_iff.1 hlookup
      exact hphrases (status, p) (by simp [hp])
  obtain ⟨c, hc, hblank⟩ := Option.map_eq_some_iff.1 hphrase
  exact ⟨c, hc, hblank⟩

theorem isBlank_getLast?_label (status : Int) :
    ∃ c, (label status).toList.getLast? = some c ∧ Text.isBlank c = false := by
  obtain ⟨c, hc, hblank⟩ := isBlank_getLast?_phrase status
  refine ⟨c, ?_, hblank⟩
  rw [label, String.toList_append, List.getLast?_append, hc]
  rfl

theorem isBlank_head?_label {status : Int} (h : 100 ≤ status) (h' : status ≤ 599) :
    ∃ c, (label status).toList.head? = some c ∧ Text.isBlank c = false := by
  obtain ⟨n, rfl⟩ := Int.eq_ofNat_of_zero_le (by omega : 0 ≤ status)
  have hdigits : ∀ x : Fin 10, Text.isBlank (Nat.digitChar x) = false := by decide
  refine ⟨Nat.digitChar (n / 100), ?_, hdigits ⟨n / 100, by omega⟩⟩
  rw [label, String.toList_append, String.toList_append, Number.toList_intText (by omega) (by omega)]
  rfl

end Status

namespace ServiceError

/-- The detail of the body says more than the phrase of the status. -/
def Adds (status : Int) (payload : Json) (detail : String) : Prop :=
  Detail.firstString payload = some detail ∧ Text.lower detail ≠ Text.lower (Status.phrase status)

theorem describe_cases (status : Int) (payload : Json) :
    (∃ detail, Adds status payload detail ∧ describe status payload = Status.label status ++ ": " ++ detail) ∨
      (∀ detail, ¬ Adds status payload detail) ∧ describe status payload = Status.label status := by
  unfold describe Adds
  rcases hdetail : Detail.firstString payload with _ | detail
  · exact .inr ⟨by simp, rfl⟩
  · by_cases hsame : Text.lower detail = Text.lower (Status.phrase status)
    · refine .inr ⟨?_, by simp [addsTo, hsame]⟩
      rintro detail' ⟨heq, hne⟩
      obtain rfl := Option.some.inj heq
      exact hne hsame
    · exact .inl ⟨detail, ⟨rfl, hsame⟩, by simp [addsTo, hsame]⟩

theorem strip_describe {status : Int} (h : 100 ≤ status) (h' : status ≤ 599) (payload : Json) :
    Text.strip (describe status payload) = describe status payload := by
  obtain ⟨first, hfirst, hfirstBlank⟩ := Status.isBlank_head?_label h h'
  obtain ⟨last, hlast, hlastBlank⟩ := Status.isBlank_getLast?_label status
  obtain ⟨detail, ⟨hdetail, -⟩, hm⟩ | ⟨-, hm⟩ := describe_cases status payload <;> rw [hm]
  · obtain ⟨s, hs⟩ := Detail.stripped_of_firstString hdetail
    obtain ⟨tail, hend, hendBlank⟩ := Detail.isBlank_getLast?_of_stripped? hs
    refine Text.strip_eq_self (fun c hc => ?_) (fun c hc => ?_)
    · simp only [String.toList_append, List.head?_append, hfirst] at hc
      obtain rfl := Option.some.inj hc
      exact hfirstBlank
    · simp only [String.toList_append, List.getLast?_append, hend] at hc
      obtain rfl := Option.some.inj hc
      exact hendBlank
  · refine Text.strip_eq_self (fun c hc => ?_) (fun c hc => ?_)
    · obtain rfl := Option.some.inj (hfirst.symm.trans hc)
      exact hfirstBlank
    · obtain rfl := Option.some.inj (hlast.symm.trans hc)
      exact hlastBlank

end ServiceError

/-! ## what the user is told -/

/-- What the message `m` for a status says, and what the user is told of it. -/
structure Explains (status : Int) (payload : Json) (m : String) : Prop where
  code : Hint.extractStatus m = some status.toNat
  badRequest : Hint.describeError m = Hint.badRequest ↔ status = 400
  notFound : Hint.describeError m = Hint.notFound ↔ status = 404
  other : Hint.describeError m = [m] ↔ status ≠ 400 ∧ status ≠ 404
  label : m = Status.label status ↔ ∀ detail, ¬ ServiceError.Adds status payload detail
  detail : ∀ detail, m = Status.label status ++ ": " ++ detail ↔ ServiceError.Adds status payload detail

theorem Hint.describeError_of_strip {m : String} (hstrip : Text.strip m = m) (hm : m ≠ "") :
    describeError m =
      if extractStatus m = some 400 then badRequest else if extractStatus m = some 404 then notFound else [m] := by
  unfold describeError
  rw [hstrip, if_neg hm]
  split <;> simp_all

/-- The lines shown for a message tell whether the first code in it is one that is explained. -/
theorem Hint.describeError_cases {m : String} (hstrip : Text.strip m = m) (hm : m ≠ "") :
    (describeError m = badRequest ↔ extractStatus m = some 400) ∧
      (describeError m = notFound ↔ extractStatus m = some 404) ∧
      (describeError m = [m] ↔ extractStatus m ≠ some 400 ∧ extractStatus m ≠ some 404) := by
  rw [describeError_of_strip hstrip hm]
  by_cases h400 : extractStatus m = some 400
  · simp [h400, badRequest, notFound]
  · by_cases h404 : extractStatus m = some 404
    · simp [h404, badRequest, notFound]
    · simp [h400, h404, badRequest, notFound]

/-- The lines shown for a message tell the code in it. -/
theorem Hint.describeError_iff {m : String} {n : Nat} (h : extractStatus m = some n) (hstrip : Text.strip m = m)
    (hm : m ≠ "") : (describeError m = badRequest ↔ n = 400) ∧ (describeError m = notFound ↔ n = 404) ∧
      (describeError m = [m] ↔ n ≠ 400 ∧ n ≠ 404) := by
  have hcases := describeError_cases hstrip hm
  rw [h] at hcases
  simpa using hcases

/-- The message is the label alone, unless there is a detail that adds to it. -/
theorem ServiceError.describe_wording (status : Int) (payload : Json) :
    (describe status payload = Status.label status ↔ ∀ detail, ¬ Adds status payload detail) ∧
      ∀ detail, describe status payload = Status.label status ++ ": " ++ detail ↔ Adds status payload detail := by
  have hne : ∀ detail, Status.label status ≠ Status.label status ++ ": " ++ detail := by
    intro detail heq
    have hcolon : ": ".length = 2 := rfl
    have hlength := congrArg String.length heq
    rw [String.length_append, String.length_append, hcolon] at hlength
    omega
  obtain ⟨detail, hadds, hm⟩ | ⟨hnone, hm⟩ := describe_cases status payload <;> rw [hm]
  · refine ⟨⟨fun heq => absurd heq.symm (hne detail), fun hnone => absurd hadds (hnone detail)⟩, fun detail' => ?_⟩
    constructor
    · intro heq
      obtain rfl : detail = detail' := by simpa using heq
      exact hadds
    · rintro ⟨hdetail, -⟩
      obtain rfl := Option.some.inj (hadds.1.symm.trans hdetail)
      rfl
  · exact ⟨⟨fun _ => hnone, fun _ => rfl⟩,
      fun detail => ⟨fun heq => absurd heq (hne detail), fun hadds => absurd hadds (hnone detail)⟩⟩

theorem Hint.extractStatus_describe {status : Int} (h : 100 ≤ status) (h' : status ≤ 599) (payload : Json) :
    extractStatus (ServiceError.describe status payload) = some status.toNat := by
  obtain ⟨detail, -, hm⟩ | ⟨-, hm⟩ := ServiceError.describe_cases status payload <;> rw [hm]
  · rw [String.append_assoc]
    exact extractStatus_label h h' _
  · simpa using extractStatus_label h h' ""

/-- **The status decides the hint, and never the body**: of every response with a status from 100 to 599 the message
is explained by that status, whatever the body says. -/
theorem describe_explains (r : Wire.Response) (h : 100 ≤ r.status) (h' : r.status ≤ 599) :
    Explains r.status (Detail.ofBody r.body) (ServiceError.describe r.status (Detail.ofBody r.body)) := by
  have hcode := Hint.extractStatus_describe h h' (Detail.ofBody r.body)
  have hstrip := ServiceError.strip_describe h h' (Detail.ofBody r.body)
  have hwording := ServiceError.describe_wording r.status (Detail.ofBody r.body)
  have hm : ServiceError.describe r.status (Detail.ofBody r.body) ≠ "" := by
    intro hempty
    rw [hempty] at hcode
    simp [Hint.extractStatus, Hint.codeFrom?] at hcode
  obtain ⟨hbad, hnot, hother⟩ := Hint.describeError_iff hcode hstrip hm
  have h400 : r.status.toNat = 400 ↔ r.status = 400 := by omega
  have h404 : r.status.toNat = 404 ↔ r.status = 404 := by omega
  exact ⟨hcode, hbad.trans h400, hnot.trans h404, hother.trans (and_congr (not_congr h400) (not_congr h404)),
    hwording.1, hwording.2⟩

/-- An error whose body names two other codes. -/
def misleading : Wire.Response := ⟨503, "\x7b\"detail\": \" not 404 but 400 \"\x7d"⟩

theorem describe_explains_misleading : 100 ≤ misleading.status ∧ misleading.status ≤ 599 ∧
    Explains misleading.status (Detail.ofBody misleading.body)
      (ServiceError.describe misleading.status (Detail.ofBody misleading.body)) :=
  ⟨by decide, by decide, describe_explains misleading (by decide) (by decide)⟩

example : ServiceError.describe misleading.status (Detail.ofBody misleading.body) =
    "503 Service Unavailable: not 404 but 400" := by
  decide +kernel

end KitConsole
