import KitConsole.Proofs.History
import Mathlib.Logic.Function.Iterate

/-!
# The moments of a session

* `Moment` — a session between two operations, within one, or over.
* `Moment.next` — the moment that follows: one more thing is done by the dialogue that goes on, or the next operation is
  begun.
* `Reaches` — a moment follows another one, some steps later.
* `reaches_play`, `reaches_dispatch`, `reaches_authenticateFirst`, `reaches_operate` — each part of a run goes through
  its moments.
* `reaches_run` — a run begins at a moment between two operations and is over at one that follows.
-/

namespace KitConsole

variable {ω : Type}

open Session

/-- The session at a moment; before it is over, with whether the user was greeted and how many operations may still be
done after the greeting. -/
inductive Moment (ω : Type)
  | between (greeted : Bool) (n : Nat) (s : Session ω)
  | within (greeted : Bool) (n : Nat) (d : Dialogue Json) (s : Session ω)
  | ended (r : Ending × Session ω)

namespace Moment

/-! ## from one moment to the next -/

/-- An operation is begun that was taken off the plan. -/
def begin (greeted : Bool) (n : Nat) (op : Operation) (s : Session ω) : Moment ω :=
  within greeted n (Flow.step op s.last)
    { s with operations := s.operations ++ [op], log := s.log ++ [dispatchRecord op s.plan] }

/-- After something that went well or not, the session goes on or is over. -/
def settled (greeted : Bool) (n : Nat) : Except Stop Unit × Session ω → Moment ω
  | (.ok (), s) => between greeted n s
  | (.error x, s) => ended (.stopped x, s)

/-- What an operation leaves, once its dialogue has been carried out. -/
def landed (greeted : Bool) (n : Nat) : Except Stop Json × Session ω → Moment ω
  | (.ok v, s) => between greeted n { s with last := v }
  | (.error x, s) => ended (.stopped x, s)

/-- One more thing is done by the dialogue. -/
def carryOn (c : Counterpart ω) (greeted : Bool) (n : Nat) : Dialogue Json → Session ω → Moment ω
  | .done v, s => landed greeted n (.ok v, s)
  | .fail x, s => landed greeted n (.error x, s)
  | .push ops next, s => within greeted n next { s with plan := s.plan.push ops }
  | .note r next, s => within greeted n next { s with log := s.log ++ [r] }
  | .ask e next, s =>
    let t := c e s.world
    let s := { s with
      world := t.world
      log := s.log ++ t.log
      events := s.events ++ [⟨e, t.result.toOption⟩] }
    match t.result with
    | .ok a => within greeted n (next a) s
    | .error f => landed greeted n (.error (.fault f), s)

/-- An authentication in front of the plan is begun, or the user is greeted. -/
def opening (c : Counterpart ω) (n : Nat) (s : Session ω) : Moment ω :=
  match s.plan with
  | .authenticate :: rest => begin false n .authenticate { s with plan := rest }
  | _ => settled true n (notify c .welcome s)

/-- The operation in front of the plan is begun, or `quit` is taken off it and the user is bidden farewell. -/
def proceed (c : Counterpart ω) (n : Nat) (s : Session ω) : Moment ω :=
  let (op, plan) := s.plan.pop
  let s := { s with plan }
  if op = .quit then ended (farewell c { s with operations := s.operations ++ [.quit] })
  else begin true n op s

def next (c : Counterpart ω) : Moment ω → Moment ω
  | between false n s => opening c n s
  | between true 0 s => ended (.unfinished, s)
  | between true (n + 1) s => proceed c n s
  | within greeted n d s => carryOn c greeted n d s
  | ended r => ended r

/-! ## moments that follow -/

/-- The second moment comes some steps after the first one. -/
def Reaches (c : Counterpart ω) (m m' : Moment ω) : Prop := ∃ k, (next c)^[k] m = m'

variable {c : Counterpart ω} {m m' m'' : Moment ω}

theorem Reaches.refl : Reaches c m m := ⟨0, rfl⟩

theorem Reaches.head (h : Reaches c (next c m) m') : Reaches c m m' := by
  obtain ⟨k, rfl⟩ := h
  exact ⟨k + 1, rfl⟩

theorem Reaches.trans (h : Reaches c m m') (h' : Reaches c m' m'') : Reaches c m m'' := by
  obtain ⟨k, rfl⟩ := h
  obtain ⟨l, rfl⟩ := h'
  exact ⟨l + k, Function.iterate_add_apply _ _ _ _⟩

theorem iterate_ended (c : Counterpart ω) (r : Ending × Session ω) (k : Nat) : (next c)^[k] (ended r) = ended r :=
  Function.iterate_fixed rfl k

/-- A session that was over is over, at each later moment. -/
theorem iterate_ended_of_le {r : Ending × Session ω} {k l : Nat} (h : (next c)^[k] m = ended r) (hl : k ≤ l) :
    (next c)^[l] m = ended r := by
  obtain ⟨j, rfl⟩ := Nat.exists_eq_add_of_le' hl
  rw [Function.iterate_add_apply, h, iterate_ended]

/-! ## the moments of a run -/

theorem reaches_play (greeted : Bool) (n : Nat) (d : Dialogue Json) (s : Session ω) :
    Reaches c (within greeted n d s) (landed greeted n (d.play c s)) := by
  induction d generalizing s with
  | done v => exact .head .refl
  | fail x => exact .head .refl
  | push ops next ih => exact .head (ih _)
  | note r next ih => exact .head (ih _)
  | ask e next ih =>
    refine .head ?_
    rcases ht : (c e s.world).result with f | a
    · simpa [Moment.next, carryOn, Dialogue.play, ht] using Reaches.refl
    · simpa [Moment.next, carryOn, Dialogue.play, ht] using ih a _

theorem reaches_dispatch (greeted : Bool) (n : Nat) (op : Operation) (s : Session ω) :
    Reaches c (begin greeted n op s) (settled greeted n (dispatch c op s)) := by
  have hlanded : settled greeted n (dispatch c op s) = landed greeted n ((Flow.step op s.last).play c
      { s with operations := s.operations ++ [op], log := s.log ++ [dispatchRecord op s.plan] }) := by
    unfold dispatch
    dsimp only
    split <;> rename_i hplay <;> rw [hplay] <;> rfl
  rw [hlanded]
  exact reaches_play _ _ _ _

theorem opening_of_authenticate {s : Session ω} {rest : Plan} (h : s.plan = .authenticate :: rest) (n : Nat) :
    opening c n s = begin false n .authenticate { s with plan := rest } := by
  simp only [opening, h]

theorem opening_of_ne {s : Session ω} (h : s.plan.head? ≠ some .authenticate) (n : Nat) :
    opening c n s = settled true n (notify c .welcome s) := by
  unfold opening
  split
  · rename_i rest hplan
    simp [hplan] at h
  · rfl

theorem reaches_authenticateFirst (n k : Nat) (s : Session ω) :
    Reaches c (between false n s) (settled false n (authenticateFirst c k s)) := by
  induction k generalizing s with
  | zero => exact .refl
  | succ k ih =>
    unfold authenticateFirst
    split
    · rename_i rest hplan
      refine .head ?_
      rw [next, opening_of_authenticate hplan]
      refine (reaches_dispatch _ _ _ _).trans ?_
      rcases dispatch c .authenticate { s with plan := rest } with ⟨x | ⟨⟩, t⟩
      · exact .refl
      · exact ih t
    · exact .refl

theorem reaches_operate (n : Nat) (s : Session ω) :
    Reaches c (between true n s) (ended (match operate c n s with
      | (.finished, t) => farewell c t
      | r => r)) := by
  induction n generalizing s with
  | zero => exact .head .refl
  | succ n ih =>
    refine .head ?_
    rw [next, Moment.proceed, operate]
    dsimp only
    split
    · exact .refl
    · refine (reaches_dispatch _ _ _ _).trans ?_
      rcases dispatch c s.plan.pop.1 { s with plan := s.plan.pop.2 } with ⟨x | ⟨⟩, t⟩
      · exact .refl
      · exact ih t

theorem reaches_proceed (n : Nat) {s : Session ω} (h : s.plan.head? ≠ some .authenticate) :
    Reaches c (between false n s) (ended (Session.proceed c n s)) := by
  refine .head ?_
  rw [next, opening_of_ne h, Session.proceed]
  rcases notify c .welcome s with ⟨x | ⟨⟩, t⟩
  · exact .refl
  · exact reaches_operate n t

/-- **A run is over at one of its moments**, with the session that it ends in. -/
theorem reaches_run (c : Counterpart ω) (n : Nat) (s : Session ω) : Reaches c (between false n s) (ended (run c n s)) := by
  refine (reaches_authenticateFirst n s.plan.length s).trans ?_
  obtain ⟨-, -, -, hhead⟩ := authenticateFirst_stretch c s.plan.length s (Nat.le_refl _)
  unfold run
  rcases hfirst : authenticateFirst c s.plan.length s with ⟨x | ⟨⟩, t⟩
  · exact .refl
  · rw [hfirst] at hhead
    exact reaches_proceed n (hhead rfl)

end Moment

end KitConsole
