import KitConsole.Session

/-!
# The courses of a dialogue

* `Answers` — which answers and faults the effects may meet; `Counterpart.Keeps W A` — a counterpart that stays within
  `A` for as long as `W` holds of its world, and that keeps `W`.
* `Course A es ops r` — a dialogue can go through the events `es`, schedule `ops` in front of the plan, and end in `r`.
* `course_bind_iff` — the courses of a dialogue that goes on with another one.
* `play_course` — carrying a dialogue out appends a course of it to the session's record and leaves the rest alone.
-/

namespace KitConsole

variable {ω α β : Type}

/-- Which answers, or which faults in place of one, the effects may meet. -/
abbrev Answers := (e : Effect) → Except Fault e.Answer → Prop

namespace Answers

/-- Any answer and any fault. -/
def any : Answers := fun _ _ => True

end Answers

/-- As long as `W` holds of the world, effects are answered within `A` and `W` goes on to hold. -/
def Counterpart.Keeps (c : Counterpart ω) (W : ω → Prop) (A : Answers) : Prop :=
  ∀ e w, W w → A e (c e w).result ∧ W (c e w).world

theorem Counterpart.keeps_any (c : Counterpart ω) : c.Keeps (fun _ => True) Answers.any :=
  fun _ _ _ => ⟨trivial, trivial⟩

namespace Dialogue

/-- The dialogue can go through the events `es`, schedule `ops` in front of the plan, and end in `r`. -/
def Course (A : Answers) : Dialogue α → List Event → List Operation → Except Stop α → Prop
  | done a, es, ops, r => es = [] ∧ ops = [] ∧ r = .ok a
  | fail x, es, ops, r => es = [] ∧ ops = [] ∧ r = .error x
  | push p next, es, ops, r => ∃ ops', next.Course A es ops' r ∧ ops = ops' ++ p
  | note _ next, es, ops, r => next.Course A es ops r
  | ask e next, es, ops, r =>
    (∃ f, A e (.error f) ∧ es = [⟨e, none⟩] ∧ ops = [] ∧ r = .error (.fault f)) ∨
    ∃ a es', A e (.ok a) ∧ (next a).Course A es' ops r ∧ es = ⟨e, some a⟩ :: es'

variable {A : Answers} {es : List Event} {ops : List Operation}

/-! ## dialogues in a row -/

theorem pure_eq (a : α) : (pure a : Dialogue α) = done a := rfl

theorem perform_bind (e : Effect) (f : e.Answer → Dialogue β) : (perform e >>= f) = ask e f := rfl

theorem course_bind_iff {d : Dialogue α} {f : α → Dialogue β} {r : Except Stop β} :
    (d >>= f).Course A es ops r ↔
      (∃ x, d.Course A es ops (.error x) ∧ r = .error x) ∨
      ∃ es₁ ops₁ a es₂ ops₂, d.Course A es₁ ops₁ (.ok a) ∧ (f a).Course A es₂ ops₂ r ∧
        es = es₁ ++ es₂ ∧ ops = ops₂ ++ ops₁ := by
  induction d generalizing es ops with
  | done a =>
    show (f a).Course A es ops r ↔ _
    constructor
    · intro h
      exact .inr ⟨[], [], a, es, ops, ⟨rfl, rfl, rfl⟩, h, rfl, by simp⟩
    · rintro (⟨x, ⟨-, -, h⟩, -⟩ | ⟨es₁, ops₁, b, es₂, ops₂, ⟨rfl, rfl, h⟩, hf, rfl, rfl⟩)
      · simp at h
      · obtain rfl := Except.ok.inj h
        simpa using hf
  | fail x =>
    show (fail x : Dialogue β).Course A es ops r ↔ _
    constructor
    · rintro ⟨rfl, rfl, rfl⟩
      exact .inl ⟨x, ⟨rfl, rfl, rfl⟩, rfl⟩
    · rintro (⟨y, ⟨rfl, rfl, h⟩, rfl⟩ | ⟨es₁, ops₁, b, es₂, ops₂, ⟨-, -, h⟩, -⟩)
      · exact ⟨rfl, rfl, by rw [Except.error.inj h]⟩
      · simp at h
  | push p next ih =>
    show (∃ ops', (next >>= f).Course A es ops' r ∧ ops = ops' ++ p) ↔ _
    constructor
    · rintro ⟨ops', h, rfl⟩
      rcases ih.1 h with ⟨x, hx, rfl⟩ | ⟨es₁, ops₁, a, es₂, ops₂, h₁, h₂, rfl, rfl⟩
      · exact .inl ⟨x, ⟨ops', hx, rfl⟩, rfl⟩
      · exact .inr ⟨es₁, ops₁ ++ p, a, es₂, ops₂, ⟨ops₁, h₁, rfl⟩, h₂, rfl, by simp⟩
    · rintro (⟨x, ⟨ops', hx, rfl⟩, rfl⟩ | ⟨es₁, ops₁, a, es₂, ops₂, ⟨ops', h₁, rfl⟩, h₂, rfl, rfl⟩)
      · exact ⟨ops', ih.2 (.inl ⟨x, hx, rfl⟩), rfl⟩
      · exact ⟨ops₂ ++ ops', ih.2 (.inr ⟨es₁, ops', a, es₂, ops₂, h₁, h₂, rfl, rfl⟩), by simp⟩
  | note m next ih => exact ih
  | ask e next ih =>
    show ((∃ g, A e (.error g) ∧ es = [⟨e, none⟩] ∧ ops = [] ∧ r = .error (.fault g)) ∨
      ∃ a es', A e (.ok a) ∧ (next a >>= f).Course A es' ops r ∧ es = ⟨e, some a⟩ :: es') ↔ _
    constructor
    · rintro (⟨g, hg, rfl, rfl, rfl⟩ | ⟨a, es', ha, h, rfl⟩)
      · exact .inl ⟨.fault g, .inl ⟨g, hg, rfl, rfl, rfl⟩, rfl⟩
      · rcases (ih a).1 h with ⟨x, hx, rfl⟩ | ⟨es₁, ops₁, b, es₂, ops₂, h₁, h₂, rfl, rfl⟩
        · exact .inl ⟨x, .inr ⟨a, es', ha, hx, rfl⟩, rfl⟩
        · exact .inr ⟨_ :: es₁, ops₁, b, es₂, ops₂, .inr ⟨a, es₁, ha, h₁, rfl⟩, h₂, rfl, rfl⟩
    · rintro (⟨x, (⟨g, hg, rfl, rfl, hx⟩ | ⟨a, es', ha, hx, rfl⟩), rfl⟩ |
        ⟨es₁, ops₁, b, es₂, ops₂, (⟨g, -, -, -, hx⟩ | ⟨a, es', ha, h₁, rfl⟩), h₂, rfl, rfl⟩)
      · obtain rfl := Except.error.inj hx
        exact .inl ⟨g, hg, rfl, rfl, rfl⟩
      · exact .inr ⟨a, es', ha, (ih a).2 (.inl ⟨x, hx, rfl⟩), rfl⟩
      · simp at hx
      · exact .inr ⟨a, es' ++ es₂, ha, (ih a).2 (.inr ⟨es', ops₁, b, es₂, ops₂, h₁, h₂, rfl, rfl⟩), rfl⟩

/-! ## carrying a dialogue out -/

/-- **A dialogue that is carried out takes one of its courses**, and changes nothing else of the session but the log
and the world. -/
theorem play_course {c : Counterpart ω} {W : ω → Prop} (hc : c.Keeps W A) (d : Dialogue α) (s : Session ω)
    (hs : W s.world) :
    ∃ es ops, d.Course A es ops (d.play c s).1 ∧ W (d.play c s).2.world ∧
      (d.play c s).2.plan = ops ++ s.plan ∧ (d.play c s).2.last = s.last ∧
      (d.play c s).2.operations = s.operations ∧ (d.play c s).2.events = s.events ++ es := by
  induction d generalizing s with
  | done a => exact ⟨[], [], ⟨rfl, rfl, rfl⟩, hs, by simp [play]⟩
  | fail x => exact ⟨[], [], ⟨rfl, rfl, rfl⟩, hs, by simp [play]⟩
  | push p next ih =>
    obtain ⟨es, ops, h, hw, hp, hl, ho, he⟩ := ih { s with plan := s.plan.push p } hs
    have hplan : ((push p next).play c s).2.plan = (ops ++ p) ++ s.plan := by
      rw [List.append_assoc]
      exact hp
    exact ⟨es, ops ++ p, ⟨ops, h, rfl⟩, hw, hplan, hl, ho, he⟩
  | note r next ih => exact ih { s with log := s.log ++ [r] } hs
  | ask e next ih =>
    obtain ⟨ha, hw⟩ := hc e s.world hs
    rcases ht : (c e s.world).result with f | a <;> rw [ht] at ha
    · refine ⟨[⟨e, none⟩], [], .inl ⟨f, ha, rfl, rfl, ?_⟩, ?_⟩
      · simp [play, ht]
      · simpa [play, ht, Except.toOption] using hw
    · let t : Session ω := { s with
        world := (c e s.world).world
        log := s.log ++ (c e s.world).log
        events := s.events ++ [⟨e, some a⟩] }
      obtain ⟨es, ops, h, hw', hp, hl, ho, he⟩ := ih a t hw
      have hplay : (ask e next).play c s = (next a).play c t := by
        simp [play, ht, t, Except.toOption]
      rw [hplay]
      exact ⟨⟨e, some a⟩ :: es, ops, .inr ⟨a, es, ha, h, rfl⟩, hw', hp, hl, ho, by rw [he]; simp [t]⟩

end Dialogue

end KitConsole
