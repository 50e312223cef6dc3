import Mathlib.Logic.Relation
import Mathlib.Order.Bounds.Basic
import KitConsole.Proofs.RemoteAnswers

/-!
# The retry law

* `Cause.IsA` — how the causes of a failure are kinds of one another; `Transport.Resends` — the outcomes after which a
  request of a method is sent again.
* `Transport.Stops t method wire n` — the `n`-th attempt from now is the last one allowed, or meets another outcome.
* `Transport.Settles` — what an outcome makes of a request.
* `sendBy_lawful` — a request is sent as often as the least number at which it stops, is logged as often, and comes to
  what the last outcome alone makes of it.
-/

namespace KitConsole

open Wire

/-! ## kinds of failures -/

namespace Wire.Cause

/-- The kinds that a cause is directly one of. -/
def parents : Cause → List Cause
  | readTimeout => [timeout]
  | connectTimeout => [connectionError, timeout]
  | proxyError | sslError => [connectionError]
  | invalidProxyUrl => [invalidUrl]
  | requestError => []
  | _ => [requestError]

/-- A cause is of the kinds that its parents lead to, and of its own. -/
def IsA : Cause → Cause → Prop := Relation.ReflTransGen fun cause parent => parent ∈ cause.parents

theorem isA_of_mem_parents {cause parent : Cause} (h : parent ∈ cause.parents) : cause.IsA parent := .single h

/-- Whatever is a timeout or a failed connection of some kind counts as one. -/
theorem isConnectivity_of_isA {cause kind : Cause} (h : cause.IsA kind) (hkind : kind.isConnectivity = true) :
    cause.isConnectivity = true := by
  induction h using Relation.ReflTransGen.head_induction_on with
  | refl => exact hkind
  | @head c parent hparent _ ih =>
    have hparents : ∀ p ∈ c.parents, p.isConnectivity = true → c.isConnectivity = true := by
      cases c <;> decide
    exact hparents parent hparent ih

theorem isConnectivity_iff (cause : Cause) :
    cause.isConnectivity = true ↔ cause.IsA timeout ∨ cause.IsA connectionError := by
  constructor
  · intro h
    cases cause with
    | timeout => exact .inl .refl
    | connectionError => exact .inr .refl
    | readTimeout => exact .inl (isA_of_mem_parents (by decide))
    | connectTimeout => exact .inl (isA_of_mem_parents (by decide))
    | proxyError => exact .inr (isA_of_mem_parents (by decide))
    | sslError => exact .inr (isA_of_mem_parents (by decide))
    | _ => simp [isConnectivity] at h
  · rintro (h | h) <;> exact isConnectivity_of_isA h rfl

/-- Nothing else is a connection that timed out. -/
theorem isA_connectTimeout_iff (cause : Cause) : cause.IsA connectTimeout ↔ cause = connectTimeout := by
  constructor
  · intro h
    rcases Relation.ReflTransGen.cases_tail h with heq | ⟨child, -, hchild⟩
    · exact heq.symm
    · cases child <;> simp [parents] at hchild
  · rintro rfl
    exact .refl

end Wire.Cause

namespace Transport

/-! ## what the law says -/

/-- The kinds of failures that let a request be sent again: a post may have been handled once it got through. -/
def resentKinds : Method → List Cause
  | .get | .delete => [.timeout, .connectionError]
  | .post => [.connectTimeout]

/-- After the outcome a request of the method may be sent again. -/
def Resends (method : Method) (o : Outcome) : Prop :=
  ∃ f, o = .failure f ∧ ∃ kind ∈ resentKinds method, f.cause.IsA kind

end Transport

/-- What the `n`-th request from now meets. -/
def Wire.ahead (wire : Wire) (n : Nat) : Outcome := wire.outcome (wire.sent.length + (n - 1))

namespace Transport

/-- The `n`-th attempt from now is the last one allowed, or it meets an outcome after which there is no other. -/
def Stops (t : Transport) (method : Method) (wire : Wire) (n : Nat) : Prop :=
  1 ≤ n ∧ ((n : Int) = max t.retries 0 + 1 ∨ ¬ Resends method (wire.ahead n))

/-- What comes of a request whose last attempt met the outcome: a response stands as it is, a timeout or a failed
connection is an error of its own kind, and any other failure is named. -/
inductive Settles (method : Method) (url : String) : Outcome → Except Failed Response → Prop
  | response (x : Response) : Settles method url (.response x) (.ok x)
  | timeout {f : Failure} : f.cause.IsA .timeout ∨ f.cause.IsA .connectionError →
      Settles method url (.failure f) (.error (.service
        { kind := .timeout, message := "Timeout contacting " ++ url, context := some (method.name ++ " " ++ url) }))
  | other {f : Failure} : ¬ (f.cause.IsA .timeout ∨ f.cause.IsA .connectionError) →
      Settles method url (.failure f) (.error (.service
        { kind := .other, message := "Request to " ++ url ++ " failed: " ++ f.cause.name,
          context := some (method.name ++ " " ++ url) }))

/-- A request of one of the three kinds; only a post has a form. -/
def sendBy (t : Transport) (method : Method) (url : String) (timeout : Option Int) (form : Entries String)
    (wire : Wire) : Exchange :=
  match method with
  | .get => t.get url timeout wire
  | .post => t.post url form timeout wire
  | .delete => t.delete url timeout wire

/-- `m` attempts were made with one request, the least number at which they stop; each was logged, and the last one alone
decided. -/
structure Lawful (t : Transport) (method : Method) (url : String) (wire : Wire) (e : Exchange) (m : Nat) : Prop where
  least : IsLeast {n | t.Stops method wire n} m
  sent : ∃ r : Request, r.method = method ∧ r.url = url ∧ e.wire = { wire with sent := wire.sent ++ List.replicate m r }
  records : e.log.length = m
  debug : ∀ x ∈ e.log, x.severity = .debug
  result : Settles method url (wire.ahead m) e.result

/-! ## attempts -/

theorem isResent_iff (method : Method) (cause : Cause) :
    isResent method cause = true ↔ ∃ kind ∈ resentKinds method, cause.IsA kind := by
  cases method with
  | get => simpa [isResent, resentKinds] using cause.isConnectivity_iff
  | delete => simpa [isResent, resentKinds] using cause.isConnectivity_iff
  | post => simpa [isResent, resentKinds] using cause.isA_connectTimeout_iff.symm

theorem resends_iff (method : Method) (o : Outcome) :
    Resends method o ↔ ∃ f, o = .failure f ∧ isResent method f.cause = true := by
  simp only [Resends, isResent_iff]

/-- The deciding attempt is the first one that stops. -/
theorem isLeast_of_decided {t : Transport} {r : Request} {wire : Wire} {m : Nat}
    (h : Decided r t.retries.toNat wire m) : IsLeast {n | t.Stops r.method wire n} (m + 1) := by
  have hretries : (t.retries.toNat : Int) = max t.retries 0 := Int.toNat_eq_max t.retries
  refine ⟨⟨by omega, ?_⟩, ?_⟩
  · rcases h.last with hm | hlast
    · left
      omega
    · right
      rw [resends_iff]
      rintro ⟨f, hf, hsent⟩
      have hnot := hlast f hf
      rw [hsent] at hnot
      simp at hnot
  · rintro n ⟨hn, hstop⟩
    -- an earlier attempt is neither the last one allowed nor one after which there is no other
    by_contra hlt
    have hle := h.allowed
    rcases hstop with hn' | hstop
    · omega
    · obtain ⟨f, hf, hsent⟩ := h.resent (n - 1) (by omega)
      exact hstop ((resends_iff _ _).2 ⟨f, hf, hsent⟩)

/-- Every attempt is logged, unless its request is refused. -/
theorem length_log_attempts (r : Request) (left : Nat) : ∀ (attempt : Nat) {wire : Wire}, wire.Willing →
    wire.sent.length + (attempts r attempt left wire).log.length = (attempts r attempt left wire).wire.sent.length := by
  induction left with
  | zero =>
    intro attempt wire hwire
    rw [attempts]
    rcases ho : wire.outcome wire.sent.length with x | f | message
    · simp [Wire.send, ho]
    · simp [Wire.send, ho]
    · exact absurd ho (hwire _ _)
  | succ left ih =>
    intro attempt wire hwire
    rw [attempts]
    rcases ho : wire.outcome wire.sent.length with x | f | message
    · simp [Wire.send, ho]
    · cases hsent : isResent r.method f.cause with
      | false => simp [Wire.send, ho, hsent]
      | true =>
        have hsame : (wire.send r).2.Willing := hwire
        have hrest := ih (attempt + 1) hsame
        simp only [Wire.send, ho, hsent, if_true, List.length_cons, List.length_append, List.length_nil] at hrest ⊢
        omega
    · exact absurd ho (hwire _ _)

theorem severity_of_mem_log_attempts (r : Request) (left : Nat) : ∀ (attempt : Nat) (wire : Wire),
    ∀ x ∈ (attempts r attempt left wire).log, x.severity = .debug := by
  induction left with
  | zero =>
    intro attempt wire
    rw [attempts]
    rcases ho : wire.outcome wire.sent.length with x | f | message <;>
      simp [Wire.send, ho, responseRecord, failureRecord, debugRecord]
  | succ left ih =>
    intro attempt wire
    rw [attempts]
    rcases ho : wire.outcome wire.sent.length with x | f | message
    · simp [Wire.send, ho, responseRecord, debugRecord]
    · cases hsent : isResent r.method f.cause with
      | false => simp [Wire.send, ho, hsent, failureRecord, debugRecord]
      | true =>
        have hrest := ih (attempt + 1) (wire.send r).2
        simpa [Wire.send, ho, hsent, retryRecord, debugRecord] using hrest
    · simp [Wire.send, ho]

theorem settles_resultOf (r : Request) {o : Outcome} (ho : ∀ message, o ≠ .refusal message) :
    Settles r.method r.url o (resultOf r o) := by
  cases o with
  | response x => exact .response x
  | failure f =>
    rw [resultOf, failureError]
    by_cases hf : f.cause.isConnectivity = true
    · rw [if_pos hf]
      exact .timeout (f.cause.isConnectivity_iff.1 hf)
    · rw [if_neg hf]
      exact .other fun h => hf (f.cause.isConnectivity_iff.2 h)
  | refusal message => exact absurd rfl (ho message)

/-! ## exchanges -/

theorem exchange_lawful (t : Transport) (r : Request) {wire : Wire} (hwire : wire.Willing) :
    ∃ m, t.Lawful r.method r.url wire (t.exchange r wire) m := by
  obtain ⟨m, hm, hsent, hresult⟩ := attempts_decided r t.retries.toNat 1 wire
  have hlog := length_log_attempts r t.retries.toNat 1 hwire
  rw [hsent, List.length_append, List.length_replicate] at hlog
  refine ⟨m + 1, isLeast_of_decided hm, ⟨r, rfl, rfl, hsent⟩, Nat.add_left_cancel hlog,
    severity_of_mem_log_attempts r _ 1 wire, ?_⟩
  rw [exchange, hresult]
  exact settles_resultOf r (hwire _)

/-- **A request is sent until an attempt stops**: with the least number of attempts, one record for each, and the result
that the last outcome alone decides. -/
theorem sendBy_lawful (t : Transport) (method : Method) (url : String) (timeout : Option Int) (form : Entries String)
    {wire : Wire} (hwire : wire.Willing) : ∃ m, t.Lawful method url wire (t.sendBy method url timeout form wire) m := by
  cases method with
  | get => exact t.exchange_lawful (t.request .get url timeout []) hwire
  | post => exact t.exchange_lawful (t.request .post url timeout form) hwire
  | delete => exact t.exchange_lawful (t.request .delete url timeout []) hwire

/-- A connection that is never made, one that is made and then falls silent, and a response that comes too late. -/
def fallingSilent : Wire :=
  .ofList [.failure ⟨.connectTimeout, "no route"⟩, .failure ⟨.readTimeout, "no answer"⟩, .response {}]

theorem sendBy_lawful_fallingSilent : fallingSilent.Willing ∧ ∃ m,
    ({ retries := 5 } : Transport).Lawful .post "https://kits.example/kits" fallingSilent
      (({ retries := 5 } : Transport).sendBy .post "https://kits.example/kits" none [("name", "A")] fallingSilent) m := by
  have hwire : fallingSilent.Willing := Wire.willing_ofList (by simp)
  exact ⟨hwire, sendBy_lawful _ .post _ none [("name", "A")] hwire⟩

/-- The silent connection may have carried the post, so it is not sent a third time. -/
example : (({ retries := 5 } : Transport).sendBy .post "https://kits.example/kits" none [("name", "A")]
    fallingSilent).wire.sent.length = 2 := by
  decide

end Transport

end KitConsole
