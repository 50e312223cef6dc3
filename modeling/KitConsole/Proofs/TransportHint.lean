import KitConsole.Proofs.Classification
import KitConsole.Proofs.StatusHint

/-!
# The hint for a request without a response

* `Hint.codeFrom?_append` — a character that is no part of a word splits the search for a status code in two.
* `Transport.FailureLine` — the line that stands for a request without a response; no status code is in it but those in
  the address.
* `Remote.addressCode?` — the first status code in the address of a call.
* `describe_failure_iff` — the user is shown this line exactly if the first code in the address is neither 400 nor 404,
  and a hint that explains such a status otherwise.
-/

namespace KitConsole

open Wire

namespace Text

/-- A decimal digit of any script is a word character. -/
theorem isWord_of_digitValue? {c : Char} {d : Nat} (h : digitValue? c = some d) : isWord c = true := by
  have hzeros : (decimalZeros.all fun z => wordRanges.any fun r => Nat.ble r.1 z && Nat.ble (z + 9) r.2) = true := by
    decide +kernel
  obtain ⟨z, hz, -⟩ := Option.map_eq_some_iff.1 h
  have hc := List.find?_some hz
  obtain ⟨r, hr, hrange⟩ := List.any_eq_true.1 (List.all_eq_true.1 hzeros z (List.mem_of_find?_eq_some hz))
  simp only [Bool.and_eq_true, decide_eq_true_eq, Nat.ble_eq] at hc hrange
  refine List.any_eq_true.2 ⟨r, hr, ?_⟩
  simp only [Bool.and_eq_true, decide_eq_true_eq]
  omega

end Text

/-! ## codes in a text that is put together -/

namespace Hint

open KitConsole.Text

/-- No code begins with a character other than the digits from 1 to 5. -/
theorem codeAt?_eq_none {c : Char} (hc : ¬ ('1' ≤ c ∧ c ≤ '5')) (ys : List Char) : codeAt? (c :: ys) = none := by
  match ys with
  | [] => rfl
  | [_] => rfl
  | y :: z :: ys => simp [codeAt?, codeOf?, hc]

theorem codeFrom?_eq_none {cs : List Char} (h : ∀ c ∈ cs, ¬ ('1' ≤ c ∧ c ≤ '5')) (afterWord : Bool) :
    codeFrom? afterWord cs = none := by
  induction cs generalizing afterWord with
  | nil => rfl
  | cons c cs ih =>
    obtain ⟨hc, hcs⟩ := List.forall_mem_cons.1 h
    rw [codeFrom?, codeAt?_eq_none hc, ite_self]
    exact ih hcs _

/-- There is no code in a text without the digits from 1 to 5. -/
theorem extractStatus_eq_none {s : String} (h : (s.toList.any fun c => '1' ≤ c ∧ c ≤ '5') = false) :
    extractStatus s = none :=
  codeFrom?_eq_none (fun c hc => by simpa using List.any_eq_false.1 h c hc) false

theorem isWord_of_leading {c : Char} (h : '1' ≤ c ∧ c ≤ '5') : isWord c = true := by
  have hlow : 49 ≤ c.toNat := h.1
  have hhigh : c.toNat ≤ 53 := h.2
  refine List.any_eq_true.2 ⟨(0x30, 0x39), by decide, ?_⟩
  simp only [Bool.and_eq_true, decide_eq_true_eq]
  omega

section Separated

variable {c : Char} (hc : isWord c = false)
include hc

theorem codeOf?_eq_none {a b d : Char} (h : c = b ∨ c = d) : codeOf? a b d = none := by
  have hdigit : digitValue? c = none := by
    rcases hd : digitValue? c with _ | n
    · rfl
    · rw [isWord_of_digitValue? hd] at hc
      exact absurd hc (by simp)
  unfold codeOf?
  rcases h with rfl | rfl <;> simp [hdigit]

/-- No code goes on past the end of a word. -/
theorem codeAt?_append {xs : List Char} (hxs : xs ≠ []) (ys : List Char) : codeAt? (xs ++ c :: ys) = codeAt? xs := by
  match xs with
  | [] => exact absurd rfl hxs
  | [a] =>
    cases ys with
    | nil => rfl
    | cons y ys => simp [codeAt?, codeOf?_eq_none hc (a := a) (b := c) (d := y)]
  | [a, b] => simp [codeAt?, codeOf?_eq_none hc (a := a) (b := b) (d := c)]
  | [a, b, d] => simp [codeAt?, startsWithWord, hc]
  | a :: b :: d :: e :: xs => rfl

/-- Past the end of a word the search starts anew. -/
theorem codeFrom?_append (xs ys : List Char) (afterWord : Bool) :
    codeFrom? afterWord (xs ++ c :: ys) = (codeFrom? afterWord xs).or (codeFrom? false ys) := by
  induction xs generalizing afterWord with
  | nil =>
    have hleading : ¬ ('1' ≤ c ∧ c ≤ '5') := fun h => by simp [isWord_of_leading h] at hc
    simp [codeFrom?, codeAt?_eq_none hleading, hc]
  | cons x xs ih =>
    have hcode := codeAt?_append hc (List.cons_ne_nil x xs) ys
    rw [List.cons_append] at hcode ⊢
    rw [codeFrom?, codeFrom?, hcode, ih]
    cases (if afterWord then none else codeAt? (x :: xs)) <;> rfl

/-- The first code of two texts with a separator between them is that of the first text, else that of the second. -/
theorem extractStatus_append {separator : String} (hseparator : separator.toList = [c]) (s t : String) :
    extractStatus (s ++ separator ++ t) = (extractStatus s).or (extractStatus t) := by
  rw [extractStatus, String.toList_append, String.toList_append, hseparator, List.append_assoc]
  exact codeFrom?_append hc _ _ _

end Separated

theorem extractStatus_blank (s t : String) : extractStatus (s ++ " " ++ t) = (extractStatus s).or (extractStatus t) :=
  extractStatus_append (c := ' ') (by decide +kernel) rfl s t

theorem extractStatus_slash (s t : String) : extractStatus (s ++ "/" ++ t) = (extractStatus s).or (extractStatus t) :=
  extractStatus_append (c := '/') (by decide +kernel) rfl s t

end Hint

/-! ## the line for a failure -/

namespace Transport

/-- The line that stands for a request to the address that met the failure. -/
inductive FailureLine (url : String) (cause : Cause) : String → Prop
  | timeout : cause.isConnectivity = true → FailureLine url cause ("Timeout contacting " ++ url)
  | other : cause.isConnectivity = false → FailureLine url cause ("Request to " ++ url ++ " failed: " ++ cause.name)

theorem failureLine_failureError (r : Request) (f : Failure) : FailureLine r.url f.cause (failureError r f).message := by
  unfold failureError
  cases hf : f.cause.isConnectivity with
  | true => exact .timeout hf
  | false => exact .other hf

variable {url line : String} {cause : Cause}

/-- The first code in the line is the first one in the address. -/
theorem FailureLine.extractStatus (h : FailureLine url cause line) :
    Hint.extractStatus line = Hint.extractStatus url := by
  cases h with
  | timeout _ =>
    have hline : "Timeout contacting " ++ url = "Timeout contacting" ++ " " ++ url := rfl
    have hnone : Hint.extractStatus "Timeout contacting" = none := Hint.extractStatus_eq_none (by decide)
    rw [hline, Hint.extractStatus_blank, hnone, Option.none_or]
  | other _ =>
    have hline : "Request to " ++ url ++ " failed: " ++ cause.name =
        "Request to" ++ " " ++ url ++ " " ++ ("failed: " ++ cause.name) := by
      simp [String.append_assoc, ← String.toList_inj]
    have hfirst : Hint.extractStatus "Request to" = none := Hint.extractStatus_eq_none (by decide)
    have hlast : Hint.extractStatus ("failed: " ++ cause.name) = none :=
      Hint.extractStatus_eq_none (by cases cause <;> decide)
    rw [hline, Hint.extractStatus_blank, Hint.extractStatus_blank, hfirst, hlast, Option.none_or, Option.or_none]

theorem FailureLine.ne_empty (h : FailureLine url cause line) : line ≠ "" := by
  cases h with
  | timeout _ => simp
  | other _ => simp

/-- The line ends with the address or with the name of a cause, so nothing of it is stripped. -/
theorem FailureLine.strip (h : FailureLine url cause line)
    (hurl : ∃ c, url.toList.getLast? = some c ∧ Text.isBlank c = false) : Text.strip line = line := by
  cases h with
  | timeout _ =>
    obtain ⟨c, hc, hblank⟩ := hurl
    refine Text.strip_eq_self (fun first hfirst => ?_) (fun last hlast => ?_)
    · obtain rfl : 'T' = first := by simpa [String.toList_append] using hfirst
      decide
    · simp only [String.toList_append, List.getLast?_append, hc] at hlast
      obtain rfl := Option.some.inj hlast
      exact hblank
  | other _ =>
    obtain ⟨c, hc, hblank⟩ : ∃ c, cause.name.toList.getLast? = some c ∧ Text.isBlank c = false := by
      cases cause <;> exact ⟨_, rfl, by decide⟩
    refine Text.strip_eq_self (fun first hfirst => ?_) (fun last hlast => ?_)
    · obtain rfl : 'R' = first := by simpa [String.toList_append] using hfirst
      decide
    · simp only [String.toList_append, List.getLast?_append, hc] at hlast
      obtain rfl := Option.some.inj hlast
      exact hblank

end Transport

/-! ## the address of a call -/

namespace Remote

/-- The first status code in the address of a call: one in the address of the service, else one in the id. -/
def addressCode? (remote : Remote) : Call → Option Nat
  | .listKits | .saveKit _ .null => Hint.extractStatus remote.root
  | .getKit id | .saveKit _ id | .deleteKit id =>
    (Hint.extractStatus remote.root).or (Hint.extractStatus (Text.strip id.text))

theorem strip_text_of_cleanId {id : Json} {s : String} (h : cleanId id = .ok s) : Text.strip id.text = s ∧ s ≠ "" := by
  unfold cleanId at h
  cases hid : id.truthy with
  | false => simp [hid] at h
  | true =>
    simp only [hid, if_true] at h
    split at h
    · simp at h
    · rename_i hs
      obtain rfl := Except.ok.inj h
      exact ⟨rfl, hs⟩

/-- The first code in an address is the one told from its parts, and the address does not end in a blank. -/
theorem extractStatus_urlOf (remote : Remote) {call : Call} {url : String} (h : remote.urlOf call = .ok url) :
    Hint.extractStatus url = remote.addressCode? call ∧
      ∃ c, url.toList.getLast? = some c ∧ Text.isBlank c = false := by
  have hkits : Hint.extractStatus "kits" = none := Hint.extractStatus_eq_none (by decide)
  have collection : remote.collectionUrl = url → Hint.extractStatus url = Hint.extractStatus remote.root ∧
      ∃ c, url.toList.getLast? = some c ∧ Text.isBlank c = false := by
    rintro rfl
    have hurl : remote.collectionUrl = remote.root ++ "/" ++ "kits" := by
      simp [collectionUrl, ← String.toList_inj]
    refine ⟨by rw [hurl, Hint.extractStatus_slash, hkits, Option.or_none], 's', ?_, by decide⟩
    simp [hurl, String.toList_append]
  have one : ∀ id, remote.kitUrl id = .ok url →
      Hint.extractStatus url = (Hint.extractStatus remote.root).or (Hint.extractStatus (Text.strip id.text)) ∧
        ∃ c, url.toList.getLast? = some c ∧ Text.isBlank c = false := by
    intro id hid
    unfold kitUrl at hid
    rcases hclean : cleanId id with f | s <;> rw [hclean] at hid
    · simp [Except.map] at hid
    · obtain ⟨hstrip, hs⟩ := strip_text_of_cleanId hclean
      obtain rfl : remote.root ++ "/kits/" ++ s = url := Except.ok.inj hid
      have hurl : remote.root ++ "/kits/" ++ s = remote.root ++ "/" ++ "kits" ++ "/" ++ s := by
        simp [String.append_assoc]
      obtain ⟨c, hc, hblank⟩ := Text.exists_getLast?_strip (hstrip ▸ hs : Text.strip id.text ≠ "")
      refine ⟨?_, c, ?_, hblank⟩
      · rw [hurl, Hint.extractStatus_slash, Hint.extractStatus_slash, hkits, Option.or_none, hstrip]
      · rw [hstrip] at hc
        simp only [String.toList_append, List.getLast?_append, hc, Option.some_or]
  cases call with
  | listKits => exact collection (Except.ok.inj h)
  | getKit id => exact one id h
  | saveKit fields id =>
    cases id with
    | null => exact collection (Except.ok.inj h)
    | _ => exact one _ h
  | deleteKit id => exact one id h

/-! ## calls without a response -/

/-- A call whose last request got no response is replied to with the line for it. -/
theorem serve_failure {remote : Remote} {call : Call} {r : Request} (hr : remote.requestFor call = .ok r) {wire : Wire}
    {f : Failure} (hmet : (remote.serve call wire).world.met? = some (.failure f)) :
    (remote.serve call wire).result = .ok (.failure call.expected (Transport.failureError r f).message) := by
  obtain ⟨m, -, hworld, hresult⟩ := serve_sends hr wire
  rw [hworld] at hmet
  have ho : wire.outcome (wire.sent.length + m) = .failure f := by simpa [Wire.met?] using hmet
  have hkind : (Transport.failureError r f).kind ≠ .auth := by
    unfold Transport.failureError
    split <;> simp
  rw [hresult, ho]
  exact congrArg Except.ok (ofError_fst hkind)

/-- **What the user is told of a call without a response**: the plain line, unless the first status code in the address
of the call is 400 or 404, which is then taken for the status of a response. -/
theorem describe_failure_iff (remote : Remote) {call : Call} (hcall : call.Addressed) {wire : Wire} {f : Failure}
    (hmet : (remote.serve call wire).world.met? = some (.failure f)) :
    ∃ url line, remote.urlOf call = .ok url ∧ Transport.FailureLine url f.cause line ∧
      (remote.serve call wire).result = .ok (.failure call.expected line) ∧
      (Hint.describeError line = [line] ↔
        remote.addressCode? call ≠ some 400 ∧ remote.addressCode? call ≠ some 404) ∧
      (Hint.describeError line = Hint.badRequest ↔ remote.addressCode? call = some 400) ∧
      (Hint.describeError line = Hint.notFound ↔ remote.addressCode? call = some 404) := by
  obtain ⟨r, hr⟩ := remote.exists_request hcall
  have hurl := (of_requestFor hr).1
  have hline := Transport.failureLine_failureError r f
  obtain ⟨hcode, hlast⟩ := remote.extractStatus_urlOf hurl
  obtain ⟨hbad, hnot, hplain⟩ := Hint.describeError_cases (hline.strip hlast) hline.ne_empty
  rw [hline.extractStatus, hcode] at hbad hnot hplain
  exact ⟨r.url, _, hurl, hline, serve_failure hr hmet, hplain, hbad, hnot⟩

/-- A service at a port whose number is no status, and a kit whose id is one. -/
def atPort : Remote := { baseUrl := "https://kits.example:8443/v1", transport := { retries := 0 } }

theorem describe_failure_iff_kit404 :
    (Call.getKit (.string "404")).Addressed ∧
      (atPort.serve (.getKit (.string "404")) .unplugged).world.met? = some (.failure ⟨.connectionError, ""⟩) ∧
      ∃ url line, atPort.urlOf (.getKit (.string "404")) = .ok url ∧
        Transport.FailureLine url .connectionError line ∧
        (atPort.serve (.getKit (.string "404")) .unplugged).result = .ok (.failure "kit" line) ∧
        (Hint.describeError line = [line] ↔ atPort.addressCode? (.getKit (.string "404")) ≠ some 400 ∧
          atPort.addressCode? (.getKit (.string "404")) ≠ some 404) ∧
        (Hint.describeError line = Hint.badRequest ↔ atPort.addressCode? (.getKit (.string "404")) = some 400) ∧
        (Hint.describeError line = Hint.notFound ↔ atPort.addressCode? (.getKit (.string "404")) = some 404) := by
  have hcall : (Call.getKit (.string "404")).Addressed := ⟨"404", rfl⟩
  have hmet : (atPort.serve (.getKit (.string "404")) .unplugged).world.met? =
      some (.failure ⟨.connectionError, ""⟩) := by decide +kernel
  exact ⟨hcall, hmet, describe_failure_iff atPort hcall hmet⟩

/-- The service cannot be reached, and the user is told that the kit was not found. -/
theorem describe_failure_misread :
    (atPort.serve (.getKit (.string "404")) .unplugged).world.met? = some (.failure ⟨.connectionError, ""⟩) ∧
      (atPort.serve (.getKit (.string "404")) .unplugged).result =
        .ok (.failure "kit" "Timeout contacting https://kits.example:8443/v1/kits/404") ∧
      Hint.describeError "Timeout contacting https://kits.example:8443/v1/kits/404" = Hint.notFound :=
  ⟨by decide +kernel, rfl, by decide +kernel⟩

end Remote

end KitConsole
