import KitConsole.Transport

/-!
# How often a request is sent

* `Decided r left wire m` — after `m` failures that let it be sent again, the request `r` meets the outcome that decides:
  one of another kind, or the last that is allowed.
* `resultOf` — what the deciding outcome makes of an exchange.
* `attempts_decided` — an exchange sends its request once for every outcome up to the deciding one, and nothing but that
  outcome shows in the result.
-/

namespace KitConsole.Transport

open Wire

/-- The outcomes of the next `m` attempts let the request be sent again, the one after them does not, or no further
attempt is left. -/
structure Decided (r : Request) (left : Nat) (wire : Wire) (m : Nat) : Prop where
  resent : ∀ i < m, ∃ f, wire.outcome (wire.sent.length + i) = .failure f ∧ isResent r.method f.cause = true
  allowed : m ≤ left
  last : m = left ∨ ∀ f, wire.outcome (wire.sent.length + m) = .failure f → isResent r.method f.cause = false

def resultOf (r : Request) : Outcome → Except Failed Response
  | .response x => .ok x
  | .failure f => .error (.service (failureError r f))
  | .refusal message => .error (.refused message)

theorem Decided.zero {r : Request} {left : Nat} {wire : Wire}
    (h : left = 0 ∨ ∀ f, wire.outcome wire.sent.length = .failure f → isResent r.method f.cause = false) :
    Decided r left wire 0 where
  resent := by simp
  allowed := Nat.zero_le _
  last := h.imp_left Eq.symm

theorem Decided.succ {r : Request} {left : Nat} {wire : Wire} {m : Nat} {f : Failure}
    (hf : wire.outcome wire.sent.length = .failure f) (hsent : isResent r.method f.cause = true)
    (h : Decided r left (wire.send r).2 m) : Decided r (left + 1) wire (m + 1) := by
  have hlength : ∀ i, (wire.send r).2.sent.length + i = wire.sent.length + (i + 1) := by
    intro i
    simp [Wire.send]
    omega
  refine ⟨fun i hi => ?_, Nat.succ_le_succ h.allowed, ?_⟩
  · cases i with
    | zero => exact ⟨f, hf, hsent⟩
    | succ i =>
      rw [← hlength]
      exact h.resent i (Nat.lt_of_succ_lt_succ hi)
  · rw [← hlength]
    exact h.last.imp_left (congrArg (· + 1))

theorem attempts_resent (left attempt : Nat) {r : Request} {wire : Wire} {f : Failure}
    (hf : wire.outcome wire.sent.length = .failure f) (hsent : isResent r.method f.cause = true) :
    (attempts r attempt (left + 1) wire).wire = (attempts r (attempt + 1) left (wire.send r).2).wire ∧
      (attempts r attempt (left + 1) wire).result = (attempts r (attempt + 1) left (wire.send r).2).result := by
  rw [attempts]
  simp only [Wire.send, hf, hsent, if_true, and_self]

theorem attempts_done {r : Request} {left attempt : Nat} {wire : Wire}
    (h : left = 0 ∨ ∀ f, wire.outcome wire.sent.length = .failure f → isResent r.method f.cause = false) :
    (attempts r attempt left wire).wire = (wire.send r).2 ∧
      (attempts r attempt left wire).result = resultOf r (wire.outcome wire.sent.length) := by
  rw [attempts.eq_def]
  rcases ho : wire.outcome wire.sent.length with x | f | message
  · simp only [Wire.send, ho, resultOf, and_self]
  · cases left with
    | zero => simp only [Wire.send, ho, resultOf, and_self]
    | succ left =>
      have hlast : isResent r.method f.cause = false := h.resolve_left (Nat.succ_ne_zero _) f ho
      simp only [Wire.send, ho, hlast, resultOf, Bool.false_eq_true, if_false, and_self]
  · simp only [Wire.send, ho, resultOf, and_self]

/-- **A request is sent until an outcome decides**, and the result is that of this outcome. -/
theorem attempts_decided (r : Request) (left : Nat) : ∀ (attempt : Nat) (wire : Wire), ∃ m, Decided r left wire m ∧
    (attempts r attempt left wire).wire = { wire with sent := wire.sent ++ List.replicate (m + 1) r } ∧
    (attempts r attempt left wire).result = resultOf r (wire.outcome (wire.sent.length + m)) := by
  induction left with
  | zero => exact fun _ _ => ⟨0, .zero (.inl rfl), attempts_done (.inl rfl)⟩
  | succ left ih =>
    intro attempt wire
    by_cases hsent : ∃ f, wire.outcome wire.sent.length = .failure f ∧ isResent r.method f.cause = true
    · obtain ⟨f, hf, hsent⟩ := hsent
      obtain ⟨m, hm, hwire, hresult⟩ := ih (attempt + 1) (wire.send r).2
      obtain ⟨hwire', hresult'⟩ := attempts_resent left attempt hf hsent
      refine ⟨m + 1, hm.succ hf hsent, ?_, ?_⟩
      · rw [hwire', hwire, List.replicate_succ (n := m + 1)]
        simp [Wire.send]
      · rw [hresult', hresult]
        simp [Wire.send, Nat.add_assoc, Nat.add_comm 1 m]
    · have hlast : ∀ f, wire.outcome wire.sent.length = .failure f → isResent r.method f.cause = false :=
        fun f hf => Bool.eq_false_iff.2 fun hs => hsent ⟨f, hf, hs⟩
      exact ⟨0, .zero (.inr hlast), attempts_done (.inr hlast)⟩

end KitConsole.Transport
