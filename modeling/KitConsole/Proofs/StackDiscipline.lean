import KitConsole.Proofs.Moments

/-!
# The plan is a stack

* `Session.Abreast r₁ r₂` — two sessions with the same operations still to do, above `r₁` in the one and above `r₂` in
  the other, that have done the same so far; `Moment.Abreast` — two such moments.
* `Moment.UsedUp r` — nothing is left above `r`, and no operation is under way.
* `abreast_next`, `abreast_iterate` — for as long as something is left, one more step keeps two moments abreast.
* `stack_discipline` — what stands below a part of the plan is not touched, and makes no difference, until that part is
  done.
-/

namespace KitConsole

variable {ω : Type} {r₁ r₂ : Plan}

open Session

/-! ## sessions abreast -/

/-- The plans differ in what is below the operations still to do, and the logs in that they show the plans. -/
structure Session.Abreast (r₁ r₂ : Plan) (s₁ s₂ : Session ω) : Prop where
  plan : ∃ q, s₁.plan = q ++ r₁ ∧ s₂.plan = q ++ r₂
  last : s₁.last = s₂.last
  operations : s₁.operations = s₂.operations
  events : s₁.events = s₂.events
  world : s₁.world = s₂.world

namespace Session.Abreast

variable {s₁ s₂ : Session ω}

theorem logged (h : Abreast r₁ r₂ s₁ s₂) (l₁ l₂ : List Log.Record) :
    Abreast r₁ r₂ { s₁ with log := l₁ } { s₂ with log := l₂ } :=
  ⟨h.plan, h.last, h.operations, h.events, h.world⟩

theorem pushed (h : Abreast r₁ r₂ s₁ s₂) (ops : List Operation) :
    Abreast r₁ r₂ { s₁ with plan := s₁.plan.push ops } { s₂ with plan := s₂.plan.push ops } := by
  obtain ⟨q, h₁, h₂⟩ := h.plan
  refine ⟨⟨ops ++ q, ?_, ?_⟩, h.last, h.operations, h.events, h.world⟩
  · simp [h₁, Plan.push]
  · simp [h₂, Plan.push]

theorem left (h : Abreast r₁ r₂ s₁ s₂) (v : Json) : Abreast r₁ r₂ { s₁ with last := v } { s₂ with last := v } :=
  ⟨h.plan, rfl, h.operations, h.events, h.world⟩

theorem begun (h : Abreast r₁ r₂ s₁ s₂) (op : Operation) :
    Abreast r₁ r₂ { s₁ with operations := s₁.operations ++ [op] } { s₂ with operations := s₂.operations ++ [op] } :=
  ⟨h.plan, h.last, by rw [h.operations], h.events, h.world⟩

theorem answered (h : Abreast r₁ r₂ s₁ s₂) (e : Event) (w : ω) :
    Abreast r₁ r₂ { s₁ with world := w, events := s₁.events ++ [e] } { s₂ with world := w, events := s₂.events ++ [e] } :=
  ⟨h.plan, h.last, h.operations, by rw [h.events], rfl⟩

/-- Where something is left, the operation in front is the same. -/
theorem popped (h : Abreast r₁ r₂ s₁ s₂) (hne : s₁.plan ≠ r₁) : ∃ op p₁ p₂, s₁.plan = op :: p₁ ∧ s₂.plan = op :: p₂ ∧
    Abreast r₁ r₂ { s₁ with plan := p₁ } { s₂ with plan := p₂ } := by
  obtain ⟨q, h₁, h₂⟩ := h.plan
  cases q with
  | nil => exact absurd h₁ hne
  | cons op q => exact ⟨op, q ++ r₁, q ++ r₂, h₁, h₂, ⟨q, rfl, rfl⟩, h.last, h.operations, h.events, h.world⟩

/-- A notice is heard by both, or by neither. -/
theorem notified (h : Abreast r₁ r₂ s₁ s₂) (c : Counterpart ω) (n : Notice) :
    (notify c n s₁).1 = (notify c n s₂).1 ∧ Abreast r₁ r₂ (notify c n s₁).2 (notify c n s₂).2 := by
  have hturn : c (.notify n) s₁.world = c (.notify n) s₂.world := by rw [h.world]
  simp only [notify, Flow.notify, Dialogue.perform, Dialogue.play, hturn]
  cases (c (.notify n) s₂.world).result with
  | ok _ => exact ⟨rfl, (h.answered _ _).logged _ _⟩
  | error _ => exact ⟨rfl, (h.answered _ _).logged _ _⟩

end Session.Abreast

/-! ## moments abreast -/

namespace Moment

/-- The same is going on, in sessions that are abreast. -/
inductive Abreast (r₁ r₂ : Plan) : Moment ω → Moment ω → Prop
  | between {greeted : Bool} {n : Nat} {s₁ s₂ : Session ω} : s₁.Abreast r₁ r₂ s₂ →
      Abreast r₁ r₂ (between greeted n s₁) (between greeted n s₂)
  | within {greeted : Bool} {n : Nat} {d : Dialogue Json} {s₁ s₂ : Session ω} : s₁.Abreast r₁ r₂ s₂ →
      Abreast r₁ r₂ (within greeted n d s₁) (within greeted n d s₂)
  | ended {e : Ending} {s₁ s₂ : Session ω} : s₁.Abreast r₁ r₂ s₂ → Abreast r₁ r₂ (ended (e, s₁)) (ended (e, s₂))

variable {c : Counterpart ω} {greeted : Bool} {n : Nat} {s₁ s₂ : Session ω} {m₁ m₂ : Moment ω}

theorem abreast_begin (h : s₁.Abreast r₁ r₂ s₂) (op : Operation) :
    Abreast r₁ r₂ (begin greeted n op s₁) (begin greeted n op s₂) := by
  have hstep : Flow.step op s₁.last = Flow.step op s₂.last := by rw [h.last]
  rw [begin, begin, hstep]
  exact .within ((h.begun op).logged _ _)

theorem abreast_settled {x₁ x₂ : Except Stop Unit × Session ω} (h : x₁.1 = x₂.1 ∧ x₁.2.Abreast r₁ r₂ x₂.2) :
    Abreast r₁ r₂ (settled greeted n x₁) (settled greeted n x₂) := by
  obtain ⟨x₁, t₁⟩ := x₁
  obtain ⟨x₂, t₂⟩ := x₂
  obtain ⟨rfl, h⟩ := h
  cases x₁ with
  | ok _ => exact .between h
  | error _ => exact .ended h

theorem abreast_opening (h : s₁.Abreast r₁ r₂ s₂) (hne : s₁.plan ≠ r₁) :
    Abreast r₁ r₂ (opening c n s₁) (opening c n s₂) := by
  obtain ⟨op, p₁, p₂, hp₁, hp₂, hrest⟩ := h.popped hne
  by_cases hop : op = .authenticate
  · subst hop
    rw [opening_of_authenticate hp₁, opening_of_authenticate hp₂]
    exact abreast_begin hrest .authenticate
  · rw [opening_of_ne (by simpa [hp₁] using hop), opening_of_ne (by simpa [hp₂] using hop)]
    exact abreast_settled (h.notified c .welcome)

theorem abreast_farewell (h : s₁.Abreast r₁ r₂ s₂) : Abreast r₁ r₂ (ended (farewell c s₁)) (ended (farewell c s₂)) := by
  have hnotified := (h.logged (s₁.log ++ [finishRecord s₁.operations])
    (s₂.log ++ [finishRecord s₂.operations])).notified c .goodbye
  unfold farewell
  generalize notify c .goodbye { s₁ with log := s₁.log ++ [finishRecord s₁.operations] } = x₁ at hnotified ⊢
  generalize notify c .goodbye { s₂ with log := s₂.log ++ [finishRecord s₂.operations] } = x₂ at hnotified ⊢
  obtain ⟨x₁, t₁⟩ := x₁
  obtain ⟨x₂, t₂⟩ := x₂
  obtain ⟨rfl, hsaid⟩ := hnotified
  cases x₁ with
  | ok _ => exact .ended hsaid
  | error _ => exact .ended hsaid

theorem abreast_proceed (h : s₁.Abreast r₁ r₂ s₂) (hne : s₁.plan ≠ r₁) :
    Abreast r₁ r₂ (proceed c n s₁) (proceed c n s₂) := by
  obtain ⟨op, p₁, p₂, hp₁, hp₂, hrest⟩ := h.popped hne
  simp only [proceed, hp₁, hp₂, Plan.pop]
  by_cases hop : op = .quit
  · rw [if_pos hop, if_pos hop]
    exact abreast_farewell (hrest.begun .quit)
  · rw [if_neg hop, if_neg hop]
    exact abreast_begin hrest op

theorem abreast_carryOn (h : s₁.Abreast r₁ r₂ s₂) (d : Dialogue Json) :
    Abreast r₁ r₂ (carryOn c greeted n d s₁) (carryOn c greeted n d s₂) := by
  cases d with
  | done v => exact .between (h.left v)
  | fail x => exact .ended h
  | push ops next => exact .within (h.pushed ops)
  | note r next => exact .within (h.logged _ _)
  | ask e next =>
    have hturn : c e s₁.world = c e s₂.world := by rw [h.world]
    simp only [carryOn, hturn]
    cases (c e s₂.world).result with
    | ok a => exact .within ((h.answered _ _).logged _ _)
    | error f => exact .ended ((h.answered _ _).logged _ _)

/-- Everything above `r` in the plan is done. -/
def UsedUp (r : Plan) : Moment ω → Prop
  | between _ _ s => s.plan = r
  | _ => False

/-- For as long as something is left above `r₁`, the next moments are abreast again. -/
theorem abreast_next (h : Abreast r₁ r₂ m₁ m₂) (hleft : ¬ UsedUp r₁ m₁) :
    Abreast r₁ r₂ (next c m₁) (next c m₂) := by
  cases h with
  | @between greeted n s₁ s₂ h =>
    cases greeted with
    | false => exact abreast_opening h hleft
    | true =>
      cases n with
      | zero => exact .ended h
      | succ n => exact abreast_proceed h hleft
  | @within greeted n d s₁ s₂ h => exact abreast_carryOn h d
  | ended h => exact .ended h

theorem abreast_iterate (h : Abreast r₁ r₂ m₁ m₂) (k : Nat) (hleft : ∀ j < k, ¬ UsedUp r₁ ((next c)^[j] m₁)) :
    Abreast r₁ r₂ ((next c)^[k] m₁) ((next c)^[k] m₂) := by
  induction k with
  | zero => exact h
  | succ k ih =>
    rw [Function.iterate_succ_apply', Function.iterate_succ_apply']
    exact abreast_next (ih fun j hj => hleft j (Nat.lt_succ_of_lt hj)) (hleft k (Nat.lt_succ_self k))

/-- **The plan is a stack.**  Two sessions that differ only in what is below the operations `p` of their plans are
abreast at each moment until nothing is left of `p` and of what it schedules; and both runs are moments of theirs. -/
theorem stack_discipline (c : Counterpart ω) (n : Nat) (s : Session ω) (p r₁ r₂ : Plan) :
    let m₁ : Moment ω := between false n { s with plan := p ++ r₁ }
    let m₂ : Moment ω := between false n { s with plan := p ++ r₂ }
    (∀ k, (∀ j < k, ¬ UsedUp r₁ ((next c)^[j] m₁)) → Abreast r₁ r₂ ((next c)^[k] m₁) ((next c)^[k] m₂)) ∧
      ∃ k, (next c)^[k] m₁ = ended (run c n { s with plan := p ++ r₁ }) ∧
        (next c)^[k] m₂ = ended (run c n { s with plan := p ++ r₂ }) := by
  intro m₁ m₂
  have hstart : Abreast r₁ r₂ m₁ m₂ := .between ⟨⟨p, rfl, rfl⟩, rfl, rfl, rfl, rfl⟩
  refine ⟨fun k => abreast_iterate hstart k, ?_⟩
  obtain ⟨k₁, h₁⟩ := reaches_run c n { s with plan := p ++ r₁ }
  obtain ⟨k₂, h₂⟩ := reaches_run c n { s with plan := p ++ r₂ }
  exact ⟨max k₁ k₂, iterate_ended_of_le h₁ (Nat.le_max_left _ _), iterate_ended_of_le h₂ (Nat.le_max_right _ _)⟩

end Moment

end KitConsole
