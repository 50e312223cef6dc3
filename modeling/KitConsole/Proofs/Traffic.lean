import KitConsole.Proofs.Doing
import KitConsole.Proofs.RemoteCall

/-!
# What a session sends

* `Wire.attempts` — the requests sent so far, each with what it met; `Wire.Grows wire xs wire'` — more of them were made.
* `Persists r xs` — one request, sent until an outcome decides.
* `Carries remote es xs` — the attempts that the events `es` lead to: those of its calls, one after the other.
* `Deed.By.carries`, `History.grows` — an operation makes the attempts of its own events, and a run makes those of its
  operations and no other ones.
-/

namespace KitConsole

open Wire

/-! ## attempts -/

/-- A request that was sent, and what it met. -/
structure Wire.Attempt where
  request : Request
  outcome : Outcome

namespace Wire

def attempts (wire : Wire) : List Attempt := wire.sent.mapIdx fun i r => ⟨r, wire.outcome i⟩

/-- The attempts `xs` lead from one wire to another. -/
structure Grows (wire : Wire) (xs : List Attempt) (wire' : Wire) : Prop where
  outcome : wire'.outcome = wire.outcome
  attempts : wire'.attempts = wire.attempts ++ xs

namespace Grows

variable {wire wire' wire'' : Wire} {xs ys : List Attempt}

theorem refl (wire : Wire) : wire.Grows [] wire := ⟨rfl, (List.append_nil _).symm⟩

theorem trans (h : wire.Grows xs wire') (h' : wire'.Grows ys wire'') : wire.Grows (xs ++ ys) wire'' where
  outcome := h'.outcome.trans h.outcome
  attempts := by rw [h'.attempts, h.attempts, List.append_assoc]

end Grows

/-- The attempts that `rs`, sent one after the other, turn into. -/
def attemptsOf (wire : Wire) (rs : List Request) : List Attempt :=
  rs.mapIdx fun i r => ⟨r, wire.outcome (i + wire.sent.length)⟩

theorem grows_send (wire : Wire) (rs : List Request) :
    wire.Grows (wire.attemptsOf rs) { wire with sent := wire.sent ++ rs } :=
  ⟨rfl, List.mapIdx_append⟩

end Wire

/-! ## calls -/

/-- The request `r`, sent until an outcome decides: before the last attempt there are only failures that let it be sent
again. -/
structure Persists (r : Request) (xs : List Attempt) : Prop where
  sent : xs ≠ []
  request : ∀ x ∈ xs, x.request = r
  resent : ∀ x ∈ xs.dropLast, ∃ f, x.outcome = .failure f ∧ Transport.isResent r.method f.cause = true

theorem persists_of_decided {r : Request} {left m : Nat} {wire : Wire} (h : Transport.Decided r left wire m) :
    Persists r (wire.attemptsOf (List.replicate (m + 1) r)) where
  sent := by simp [attemptsOf]
  request := by
    intro x hx
    obtain ⟨i, hi, rfl⟩ := List.mem_mapIdx.1 hx
    exact List.getElem_replicate _
  resent := by
    have hlast : (wire.attemptsOf (List.replicate (m + 1) r)).dropLast = wire.attemptsOf (List.replicate m r) := by
      rw [attemptsOf, List.replicate_succ', List.mapIdx_concat, List.dropLast_concat]
      rfl
    intro x hx
    rw [hlast] at hx
    obtain ⟨i, hi, rfl⟩ := List.mem_mapIdx.1 hx
    rw [List.length_replicate] at hi
    obtain ⟨f, hf, hsent⟩ := h.resent i hi
    exact ⟨f, by rw [Nat.add_comm]; exact hf, hsent⟩

/-- The attempts that an effect makes: a call sends its request, if it has one. -/
def Emits (remote : Remote) : Effect → List Attempt → Prop
  | .call call, xs =>
    match remote.requestFor call with
    | .ok r => Persists r xs
    | .error _ => xs = []
  | _, xs => xs = []

/-- The attempts of events, one after the other. -/
inductive Carries (remote : Remote) : List Event → List Attempt → Prop
  | nil : Carries remote [] []
  | cons {e : Event} {es : List Event} {xs ys : List Attempt} : Emits remote e.effect xs → Carries remote es ys →
      Carries remote (e :: es) (xs ++ ys)

namespace Carries

variable {remote : Remote} {es : List Event} {xs : List Attempt}

/-- Every attempt is made by one of the events. -/
theorem of_mem (h : Carries remote es xs) {x : Attempt} (hx : x ∈ xs) :
    ∃ e ∈ es, ∃ ys, Emits remote e.effect ys ∧ x ∈ ys := by
  induction h with
  | nil => simp at hx
  | cons hemits _ ih =>
    rcases List.mem_append.1 hx with hx | hx
    · exact ⟨_, by simp, _, hemits, hx⟩
    · obtain ⟨e, he, hys⟩ := ih hx
      exact ⟨e, List.mem_cons_of_mem _ he, hys⟩

/-- Notices send nothing. -/
theorem eq_nil (h : Carries remote es xs) (hes : ∀ e ∈ es, ∃ n, e.effect = .notify n) : xs = [] := by
  induction h with
  | nil => rfl
  | cons hemits _ ih =>
    obtain ⟨⟨n, hn⟩, hrest⟩ := List.forall_mem_cons.1 hes
    rw [hn] at hemits
    rw [show _ = [] from hemits, ih hrest]
    rfl

end Carries

/-! ## sessions -/

variable {σ : Type} {remote : Remote} {u : Surface σ}

theorem emits_effect (remote : Remote) (u : Surface σ) (e : Effect) (w : Wire × σ) :
    ∃ xs, Emits remote e xs ∧ w.1.Grows xs ((Counterpart.of remote.serve u) e w).world.1 := by
  cases e with
  | call call =>
    have hworld : ((Counterpart.of remote.serve u) (.call call) w).world.1 = (remote.serve call w.1).world := rfl
    rw [hworld]
    cases hr : remote.requestFor call with
    | error f =>
      rw [Remote.serve_unsent hr]
      exact ⟨[], by simp [Emits, hr], .refl _⟩
    | ok r =>
      obtain ⟨m, hm, hsent, -⟩ := Remote.serve_sends hr w.1
      rw [hsent]
      refine ⟨_, ?_, grows_send _ _⟩
      simpa only [Emits, hr] using persists_of_decided hm
  | _ => exact ⟨[], rfl, .refl _⟩

/-- Carrying a dialogue out makes the attempts of its events. -/
theorem play_carries (remote : Remote) (u : Surface σ) {α : Type} (d : Dialogue α) (s : Session (Wire × σ)) :
    ∃ es xs, (d.play (.of remote.serve u) s).2.events = s.events ++ es ∧ Carries remote es xs ∧
      s.world.1.Grows xs (d.play (.of remote.serve u) s).2.world.1 := by
  induction d generalizing s with
  | done a => exact ⟨[], [], by simp [Dialogue.play], .nil, .refl _⟩
  | fail x => exact ⟨[], [], by simp [Dialogue.play], .nil, .refl _⟩
  | push ops next ih => exact ih { s with plan := s.plan.push ops }
  | note r next ih => exact ih { s with log := s.log ++ [r] }
  | ask e next ih =>
    obtain ⟨xs, hemits, hgrows⟩ := emits_effect remote u e s.world
    let c : Counterpart (Wire × σ) := .of remote.serve u
    let t : Session (Wire × σ) := { s with
      world := (c e s.world).world
      log := s.log ++ (c e s.world).log
      events := s.events ++ [⟨e, (c e s.world).result.toOption⟩] }
    rcases hresult : (c e s.world).result with f | a
    · have hplay : (Dialogue.ask e next).play c s = (.error (.fault f), t) := by simp only [Dialogue.play, hresult, t]
      rw [hplay]
      refine ⟨[⟨e, none⟩], xs ++ [], ?_, .cons hemits .nil, ?_⟩
      · simp only [t, hresult, Except.toOption]
      · rw [List.append_nil]
        exact hgrows
    · have hplay : (Dialogue.ask e next).play c s = (next a).play c t := by simp only [Dialogue.play, hresult, t]
      obtain ⟨es, ys, hevents, hcarries, hgrows'⟩ := ih a t
      rw [hplay]
      refine ⟨⟨e, some a⟩ :: es, xs ++ ys, ?_, .cons hemits hcarries, hgrows.trans hgrows'⟩
      rw [hevents]
      simp only [t, hresult, Except.toOption, List.append_assoc, List.singleton_append]

namespace Session

variable {s t : Session (Wire × σ)}

theorem dispatch_carries (remote : Remote) (u : Surface σ) (op : Operation) (s : Session (Wire × σ)) :
    ∃ es xs, (dispatch (.of remote.serve u) op s).2.events = s.events ++ es ∧ Carries remote es xs ∧
      s.world.1.Grows xs (dispatch (.of remote.serve u) op s).2.world.1 := by
  let t : Session (Wire × σ) := { s with
    operations := s.operations ++ [op]
    log := s.log ++ [dispatchRecord op s.plan] }
  obtain ⟨es, xs, h⟩ := play_carries remote u (Flow.step op s.last) t
  refine ⟨es, xs, ?_⟩
  rcases hplay : (Flow.step op s.last).play (.of remote.serve u) t with ⟨x | v, t'⟩ <;> rw [hplay] at h
  · have hd : dispatch (.of remote.serve u) op s = (.error x, t') := by simp only [dispatch]; rw [hplay]
    rw [hd]
    exact h
  · have hd : dispatch (.of remote.serve u) op s = (.ok (), { t' with last := v }) := by
      simp only [dispatch]; rw [hplay]
    rw [hd]
    exact h

/-- The attempts made in the course of an operation. -/
def Deed.attempts (d : Deed (Wire × σ)) : List Attempt :=
  d.after.world.1.attempts.drop d.before.world.1.attempts.length

theorem Deed.By.carries {d : Deed (Wire × σ)} (h : d.By (.of remote.serve u)) :
    Carries remote d.events d.attempts ∧ d.before.world.1.Grows d.attempts d.after.world.1 := by
  obtain ⟨es, xs, hevents, hcarries, hgrows⟩ :=
    dispatch_carries remote u d.op { d.before with plan := d.before.plan.tail }
  rw [h.dispatched] at hevents hgrows
  obtain rfl : d.events = es := by rw [Deed.events, hevents]; exact List.drop_left
  obtain rfl : d.attempts = xs := by rw [Deed.attempts, hgrows.attempts]; exact List.drop_left
  exact ⟨hcarries, hgrows⟩

theorem Stretch.grows {ds : List (Deed (Wire × σ))} {r : Except Stop Unit}
    (h : Stretch (.of remote.serve u) s ds r t) : s.world.1.Grows (ds.flatMap Deed.attempts) t.world.1 := by
  induction h with
  | nil => exact .refl _
  | stopped hd _ => simpa using hd.carries.2
  | cons hd _ _ ih => exact hd.carries.2.trans ih

theorem Operated.grows {ds : List (Deed (Wire × σ))} {e : Ending} (h : Operated (.of remote.serve u) s ds e t) :
    s.world.1.Grows (ds.flatMap Deed.attempts) t.world.1 := by
  cases h with
  | stopped h => exact h.grows
  | unfinished h => exact h.grows
  | finished h _ => exact h.grows

/-- Telling the user something sends nothing. -/
theorem notify_grows {n : Notice} {r : Except Stop Unit} (h : notify (.of remote.serve u) n s = (r, t)) :
    s.world.1.Grows [] t.world.1 := by
  have hworld : (notify (.of remote.serve u) n s).2.world.1 = s.world.1 := by
    simp only [notify, Flow.notify, Dialogue.perform, Dialogue.play]
    split <;> rfl
  rw [h] at hworld
  dsimp only at hworld
  rw [hworld]
  exact .refl _

theorem farewell_grows {e : Ending} (h : farewell (.of remote.serve u) s = (e, t)) :
    s.world.1.Grows [] t.world.1 := by
  let s' : Session (Wire × σ) := { s with log := s.log ++ [finishRecord s.operations] }
  rcases hn : notify (.of remote.serve u) .goodbye s' with ⟨x | ⟨⟩, t'⟩
  all_goals
    have hgrows : s'.world.1.Grows [] t'.world.1 := notify_grows hn
    simp only [farewell] at h
    rw [hn] at h
    obtain ⟨-, rfl⟩ := Prod.mk.inj h
    exact hgrows

/-- **A run sends what its operations send, and nothing else.** -/
theorem History.grows {early late : List (Deed (Wire × σ))} {e : Ending}
    (h : History (.of remote.serve u) s early late e t) :
    s.world.1.Grows ((early ++ late).flatMap Deed.attempts) t.world.1 := by
  rw [List.flatMap_append]
  cases h with
  | refused hopening => simpa using hopening.stretch.grows
  | unwelcomed hopening hn => simpa using hopening.stretch.grows.trans (notify_grows hn)
  | worked hopening hn _ hlate _ => exact hopening.stretch.grows.trans ((notify_grows hn).trans hlate.grows)
  | ended hopening hn _ hlate hfarewell =>
    have hlate := ((notify_grows hn).trans hlate.grows).trans (farewell_grows hfarewell)
    rw [List.append_nil] at hlate
    exact hopening.stretch.grows.trans hlate

end Session

end KitConsole
