import KitConsole.Session

/-!
# Sessions in another world

* `Session.mapWorld` — the same session in another world.
* `Counterpart.Mirrors f c c'` — at `f w` the counterpart `c'` answers and logs as `c` does at `w`, and `f` leads from
  the world that `c` leaves to the world that `c'` leaves.
* `Session.conduct_mapWorld` — against the two of them a session takes the same course to the same exit.
-/

namespace KitConsole

variable {ω ω' α : Type} {f : ω → ω'} {c : Counterpart ω} {c' : Counterpart ω'}

/-- At the image of a world `c'` does what `c` does at the world itself. -/
def Counterpart.Mirrors (f : ω → ω') (c : Counterpart ω) (c' : Counterpart ω') : Prop :=
  ∀ e w, c' e (f w) = (c e w).mapWorld f

namespace Counterpart.Mirrors

/-- A service and its image, with the same user beside both. -/
theorem service {γ γ' σ : Type} {g : γ → γ'} {k : Service γ} {k' : Service γ'} (u : Surface σ)
    (h : ∀ call w, k' call (g w) = (k call w).mapWorld g) :
    Mirrors (fun w : γ × σ => (g w.1, w.2)) (.of k u) (.of k' u) := by
  intro e w
  cases e with
  | call call =>
    have hcall := h call w.1
    simp only [Counterpart.of, Turn.mapWorld] at hcall ⊢
    rw [hcall]
  | _ => rfl

end Counterpart.Mirrors

/-- The session in another world. -/
def Session.mapWorld (f : ω → ω') (s : Session ω) : Session ω' := { s with world := f s.world }

theorem Dialogue.play_mapWorld (h : c.Mirrors f c') (d : Dialogue α) (s : Session ω) :
    d.play c' (s.mapWorld f) = (d.play c s).map id (Session.mapWorld f) := by
  induction d generalizing s with
  | done a => rfl
  | fail x => rfl
  | push ops next ih => exact ih { s with plan := s.plan.push ops }
  | note r next ih => exact ih { s with log := s.log ++ [r] }
  | ask e next ih =>
    have hturn : c' e (s.mapWorld f).world = (c e s.world).mapWorld f := h e s.world
    simp only [play]
    rw [hturn]
    rcases hresult : (c e s.world).result with x | a <;> simp only [Turn.mapWorld, hresult]
    · rfl
    · exact ih a { s with
        world := (c e s.world).world
        log := s.log ++ (c e s.world).log
        events := s.events ++ [⟨e, some a⟩] }

namespace Session

theorem dispatch_mapWorld (h : c.Mirrors f c') (op : Operation) (s : Session ω) :
    dispatch c' op (s.mapWorld f) = (dispatch c op s).map id (mapWorld f) := by
  have hplay := Dialogue.play_mapWorld h (Flow.step op s.last)
    { s with operations := s.operations ++ [op], log := s.log ++ [dispatchRecord op s.plan] }
  simp only [mapWorld] at hplay
  simp only [dispatch, mapWorld]
  rw [hplay]
  rcases (Flow.step op s.last).play c _ with ⟨x | v, t⟩ <;> rfl

theorem authenticateFirst_mapWorld (h : c.Mirrors f c') (n : Nat) (s : Session ω) :
    authenticateFirst c' n (s.mapWorld f) = (authenticateFirst c n s).map id (mapWorld f) := by
  induction n generalizing s with
  | zero => rfl
  | succ n ih =>
    obtain ⟨plan, last, operations, events, log, world⟩ := s
    rcases plan with _ | ⟨op, rest⟩
    · rfl
    · cases op with
      | authenticate =>
        have hdispatch := dispatch_mapWorld h .authenticate ⟨rest, last, operations, events, log, world⟩
        simp only [mapWorld] at hdispatch
        simp only [authenticateFirst, mapWorld]
        rw [hdispatch]
        rcases dispatch c .authenticate _ with ⟨x | ⟨⟩, t⟩
        · rfl
        · exact ih t
      | _ => rfl

theorem operate_mapWorld (h : c.Mirrors f c') (n : Nat) (s : Session ω) :
    operate c' n (s.mapWorld f) = (operate c n s).map id (mapWorld f) := by
  induction n generalizing s with
  | zero => rfl
  | succ n ih =>
    have hpop : (s.mapWorld f).plan.pop = s.plan.pop := rfl
    by_cases hquit : s.plan.pop.1 = .quit
    · simp only [operate, hpop]
      rw [if_pos hquit, if_pos hquit]
      rfl
    · have hdispatch := dispatch_mapWorld h s.plan.pop.1 { s with plan := s.plan.pop.2 }
      simp only [mapWorld] at hdispatch
      simp only [operate, hpop]
      rw [if_neg hquit, if_neg hquit]
      simp only [mapWorld]
      rw [hdispatch]
      rcases dispatch c s.plan.pop.1 _ with ⟨x | ⟨⟩, t⟩
      · rfl
      · exact ih t

theorem notify_mapWorld (h : c.Mirrors f c') (n : Notice) (s : Session ω) :
    notify c' n (s.mapWorld f) = (notify c n s).map id (mapWorld f) :=
  Dialogue.play_mapWorld h (Flow.notify n) s

theorem farewell_mapWorld (h : c.Mirrors f c') (s : Session ω) :
    farewell c' (s.mapWorld f) = (farewell c s).map id (mapWorld f) := by
  have hnotify := notify_mapWorld h .goodbye { s with log := s.log ++ [finishRecord s.operations] }
  simp only [mapWorld] at hnotify
  simp only [farewell, mapWorld]
  rw [hnotify]
  rcases notify c .goodbye _ with ⟨x | ⟨⟩, t⟩ <;> rfl

theorem proceed_mapWorld (h : c.Mirrors f c') (n : Nat) (s : Session ω) :
    proceed c' n (s.mapWorld f) = (proceed c n s).map id (mapWorld f) := by
  simp only [proceed]
  rw [notify_mapWorld h]
  rcases notify c .welcome s with ⟨x | ⟨⟩, t⟩
  · rfl
  · simp only [Prod.map, id]
    rw [operate_mapWorld h]
    rcases operate c n t with ⟨_ | x | _, t⟩
    · exact farewell_mapWorld h t
    · rfl
    · rfl

theorem run_mapWorld (h : c.Mirrors f c') (n : Nat) (s : Session ω) :
    run c' n (s.mapWorld f) = (run c n s).map id (mapWorld f) := by
  have hfirst := authenticateFirst_mapWorld h s.plan.length s
  have hlength : (s.mapWorld f).plan.length = s.plan.length := rfl
  simp only [run]
  rw [hlength, hfirst]
  rcases authenticateFirst c s.plan.length s with ⟨x | ⟨⟩, t⟩
  · rfl
  · exact proceed_mapWorld h n t

theorem reportRejection_mapWorld (h : c.Mirrors f c') (message : String) (s : Session ω) :
    reportRejection c' message (s.mapWorld f) = (reportRejection c message s).map id (mapWorld f) := by
  have hnotify := notify_mapWorld h .authFailed { s with log := s.log ++ [rejectionRecord message] }
  simp only [mapWorld] at hnotify
  simp only [reportRejection, mapWorld]
  rw [hnotify]
  rcases notify c .authFailed _ with ⟨x | ⟨⟩, t⟩ <;> rfl

/-- **Against a counterpart and its mirror a session takes the same course to the same exit.** -/
theorem conduct_mapWorld (h : c.Mirrors f c') (n : Nat) (s : Session ω) :
    conduct c' n (s.mapWorld f) = (conduct c n s).map id (mapWorld f) := by
  simp only [conduct]
  rw [run_mapWorld h]
  rcases run c n s with ⟨_ | (message | x) | _, t⟩
  · rfl
  · exact reportRejection_mapWorld h message t
  · rfl
  · rfl

end Session

end KitConsole
