import KitConsole.Session

/-!
# Runs with known answers

* `Dialogue.Yields c P d ops a Q` — in every world with `P` the dialogue `d` comes to `a`, schedules `ops` in front of
  the plan, and leaves a world with `Q`; `Yields.bind` puts dialogues in a row.
* `Session.Stands P plan last s` — the session is about to work off `plan`, in a world with `P`.
* `Reaches`, `reaches_of_yields`, `operate_quit` — what one operation makes of such a session.
* `conduct_of_operate` — a session from the start ends well if its authentication, its welcome, its plan and its
  farewell do.
-/

namespace KitConsole

variable {ω α β : Type} {c : Counterpart ω} {P Q R : ω → Prop}

namespace Dialogue

/-! ## dialogues -/

/-- In a world with `P` the dialogue comes to `a`, schedules `ops`, and leaves a world with `Q`. -/
def Yields (c : Counterpart ω) (P : ω → Prop) (d : Dialogue α) (ops : List Operation) (a : α) (Q : ω → Prop) : Prop :=
  ∀ s : Session ω, P s.world →
    ∃ s', d.play c s = (.ok a, s') ∧ s'.plan = ops ++ s.plan ∧ s'.last = s.last ∧ Q s'.world

theorem play_bind (d : Dialogue α) (f : α → Dialogue β) (s : Session ω) :
    (d >>= f).play c s = match d.play c s with
      | (.ok a, t) => (f a).play c t
      | (.error x, t) => (.error x, t) := by
  induction d generalizing s with
  | done a => rfl
  | fail x => rfl
  | push ops next ih => exact ih { s with plan := s.plan.push ops }
  | note r next ih => exact ih { s with log := s.log ++ [r] }
  | ask e next ih =>
    have hask : (ask e next >>= f) = ask e fun a => next a >>= f := rfl
    rw [hask]
    simp only [play]
    rcases (c e s.world).result with x | a
    · rfl
    · exact ih a _

theorem yields_pure (a : α) : Yields c P (pure a) [] a P :=
  fun s hs => ⟨s, rfl, rfl, rfl, hs⟩

theorem yields_schedule (ops : List Operation) : Yields c P (schedule ops) ops () P :=
  fun _ hs => ⟨_, rfl, rfl, rfl, hs⟩

theorem yields_schedule_pure (ops : List Operation) (a : α) :
    Yields c P (schedule ops >>= fun _ => pure a) ops a P :=
  fun _ hs => ⟨_, rfl, rfl, rfl, hs⟩

theorem yields_log (r : Log.Record) : Yields c P (log r) [] () P :=
  fun _ hs => ⟨_, rfl, rfl, rfl, hs⟩

theorem yields_perform {e : Effect} {a : e.Answer} (h : ∀ w, P w → (c e w).result = .ok a ∧ Q (c e w).world) :
    Yields c P (perform e) [] a Q := by
  intro s hs
  obtain ⟨hresult, hworld⟩ := h s.world hs
  unfold perform
  simp only [play, hresult]
  exact ⟨_, rfl, rfl, rfl, hworld⟩

theorem Yields.bind {d : Dialogue α} {f : α → Dialogue β} {ops more : List Operation} {a : α} {b : β}
    (h : Yields c P d ops a Q) (hf : Yields c Q (f a) more b R) : Yields c P (d >>= f) (more ++ ops) b R := by
  intro s hs
  obtain ⟨t, hplay, hplan, hlast, ht⟩ := h s hs
  obtain ⟨u, hnext, hplan', hlast', hu⟩ := hf t ht
  refine ⟨u, ?_, ?_, hlast'.trans hlast, hu⟩
  · rw [play_bind, hplay]
    exact hnext
  · rw [hplan', hplan, List.append_assoc]

theorem Yields.seq {d : Dialogue α} {f : α → Dialogue β} {ops : List Operation} {a : α} {b : β}
    (h : Yields c P d [] a Q) (hf : Yields c Q (f a) ops b R) : Yields c P (d >>= f) ops b R := by
  have hbind := h.bind hf
  rwa [List.append_nil] at hbind

end Dialogue

namespace Session

open Dialogue

variable {plan : Plan} {last v : Json} {op : Operation} {ops : List Operation} {s : Session ω}

/-! ## operations -/

/-- The session is about to work off `plan`, in a world with `P`. -/
structure Stands (P : ω → Prop) (plan : Plan) (last : Json) (s : Session ω) : Prop where
  plan : s.plan = plan
  last : s.last = last
  world : P s.world

theorem dispatch_of_yields (h : (Flow.step op last).Yields c P ops v Q) (hs : Stands P plan last s) :
    ∃ s', dispatch c op s = (.ok (), s') ∧ Stands Q (ops ++ plan) v s' := by
  obtain ⟨rfl, rfl, hworld⟩ := hs
  obtain ⟨t, hplay, hplan, -, ht⟩ :=
    h { s with operations := s.operations ++ [op], log := s.log ++ [dispatchRecord op s.plan] } hworld
  refine ⟨{ t with last := v }, ?_, hplan, rfl, ht⟩
  unfold dispatch
  simp only [hplay]

theorem notify_of_yields {n : Notice} (h : (Flow.notify n).Yields c P [] () Q) (hs : Stands P plan last s) :
    ∃ s', notify c n s = (.ok (), s') ∧ Stands Q plan last s' := by
  obtain ⟨t, hplay, hplan, hlast, hworld⟩ := h s hs.world
  exact ⟨t, hplay, hplan.trans hs.plan, hlast.trans hs.last, hworld⟩

theorem authenticateFirst_of_ne (h : s.plan.head? ≠ some .authenticate) (n : Nat) :
    authenticateFirst c n s = (.ok (), s) := by
  cases n with
  | zero => rfl
  | succ n =>
    obtain ⟨plan, last, operations, events, log, world⟩ := s
    rcases plan with _ | ⟨op, rest⟩
    · rfl
    · cases op <;> first | rfl | exact absurd rfl h

theorem authenticateFirst_of_yields (h : (Flow.step .authenticate last).Yields c P [] v Q)
    (hplan : plan.head? ≠ some .authenticate) (hs : Stands P (.authenticate :: plan) last s) (n : Nat) :
    ∃ s', authenticateFirst c (n + 1) s = (.ok (), s') ∧ Stands Q plan v s' := by
  have hs' : Stands P plan last { s with plan := plan } := ⟨rfl, hs.last, hs.world⟩
  obtain ⟨t, hdispatch, ht⟩ := dispatch_of_yields h hs'
  refine ⟨t, ?_, ht⟩
  unfold authenticateFirst
  simp only [hs.plan, hdispatch]
  exact authenticateFirst_of_ne (by rw [ht.plan]; exact hplan) n

/-- `k` operations of the plan lead from `s` to `t`. -/
def Reaches (c : Counterpart ω) (k : Nat) (s t : Session ω) : Prop := ∀ n, operate c (n + k) s = operate c n t

/-- An operation is carried out, and the session goes on with what it scheduled. -/
theorem reaches_of_yields (h : (Flow.step op last).Yields c P ops v Q) (hop : op ≠ .quit)
    (hs : Stands P (op :: plan) last s) : ∃ s', Reaches c 1 s s' ∧ Stands Q (ops ++ plan) v s' := by
  have hs' : Stands P plan last { s with plan := plan } := ⟨rfl, hs.last, hs.world⟩
  obtain ⟨t, hdispatch, ht⟩ := dispatch_of_yields h hs'
  refine ⟨t, fun n => ?_, ht⟩
  simp only [operate, hs.plan, Plan.pop, if_neg hop, hdispatch]

theorem operate_quit (hs : Stands P (.quit :: plan) last s) (n : Nat) :
    ∃ s', operate c (n + 1) s = (.finished, s') ∧ Stands P plan last s' := by
  refine ⟨{ s with plan := plan, operations := s.operations ++ [.quit] }, ?_, rfl, hs.last, hs.world⟩
  simp only [operate, hs.plan, Plan.pop, if_pos]

/-! ## sessions -/

/-- A session from the start ends well if all its parts do. -/
theorem conduct_of_operate {P₀ P₁ P₂ P₃ P₄ : ω → Prop} {w : ω} {n : Nat} (hw : P₀ w)
    (hauthenticate : (Flow.step .authenticate .null).Yields c P₀ [] .null P₁)
    (hwelcome : (Flow.notify .welcome).Yields c P₁ [] () P₂)
    (hoperate : ∀ s, Stands P₂ [.mainMenu, .quit] .null s →
      ∃ s' plan last, operate c n s = (.finished, s') ∧ Stands P₃ plan last s')
    (hgoodbye : (Flow.notify .goodbye).Yields c P₃ [] () P₄) :
    ∃ s', conduct c n { world := w } = (.status 0, s') ∧ P₄ s'.world := by
  have hstart : Stands P₀ [.authenticate, .mainMenu, .quit] .null { world := w } := ⟨rfl, rfl, hw⟩
  obtain ⟨s₁, hopening, hs₁⟩ := authenticateFirst_of_yields hauthenticate (by simp) hstart 2
  obtain ⟨s₂, hgreeting, hs₂⟩ := notify_of_yields hwelcome hs₁
  obtain ⟨s₃, plan, last, hworked, hs₃⟩ := hoperate s₂ hs₂
  have hs₃' : Stands P₃ plan last { s₃ with log := s₃.log ++ [finishRecord s₃.operations] } :=
    ⟨hs₃.plan, hs₃.last, hs₃.world⟩
  obtain ⟨s₄, hparting, hs₄⟩ := notify_of_yields hgoodbye hs₃'
  refine ⟨s₄, ?_, hs₄.world⟩
  have hrun : run c n { world := w } = (.finished, s₄) := by
    unfold run
    simp only [Plan.startup, List.length_cons, List.length_nil, Nat.zero_add] at hopening ⊢
    rw [hopening]
    simp only [proceed, hgreeting, hworked, farewell, hparting]
  unfold conduct
  rw [hrun]

end Session

end KitConsole
