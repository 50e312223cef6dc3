import KitConsole.Proofs.Run

/-!
# The stages of a session

* `Stage`, `At` — how far a session that began with the startup plan has come, with the plan and the result that
  belong to each stage; from the choice of a kit on, a stage carries its id.
* `Move` — what an operation does at a stage: the events of its step, and the next stage or the end of the session.
* `move_of_course` — at each stage the step of the next operation makes a `Move`.
* `run_outcome` — a fact about stages, operations and events that all moves preserve holds at the end of every run.
-/

namespace KitConsole.Session

open KitConsole.Flow

variable {ω : Type} {c : Counterpart ω} {W : ω → Prop} {A : Answers}

inductive Stage
  | opening
  | menu
  | listing
  | creating
  | created
  | acting (id : String)
  | viewing (id : String)
  | viewed (id : String)
  | editing (id : String)
  | saving (id : String)
  | deleting (id : String)
  | closing

/-- The kit that a stage is about. -/
def Stage.kit? : Stage → Option String
  | .acting id | .viewing id | .viewed id | .editing id | .saving id | .deleting id => some id
  | _ => none

/-- The plan and the result of the last step at a stage; fields on their way to a save hold the id under its key. -/
inductive At : Stage → Plan → Json → Prop
  | opening : At .opening [.authenticate, .mainMenu, .quit] .null
  | menu : At .menu [.mainMenu, .quit] .null
  | listing : At .listing [.listAndChoose, .quit] .null
  | creating : At .creating [.collectFields, .quit] .null
  | created {fields : Fields} : At .created [.save, .quit] (.object (Entries.put idField .null fields))
  | acting {id : String} : At (.acting id) [.chooseAction, .quit] (.string id)
  | viewing {id : String} : At (.viewing id) [.view, .afterView, .quit] (.string id)
  | viewed {id : String} : At (.viewed id) [.afterView, .quit] (.string id)
  | editing {id : String} : At (.editing id) [.collectFields, .quit] (.string id)
  | saving {id : String} {fields : Fields} :
      At (.saving id) [.save, .afterView, .quit] (.object (Entries.put idField (.string id) fields))
  | deleting {id : String} : At (.deleting id) [.delete, .quit] (.string id)
  | closing {plan : Plan} {last : Json} : plan = [.quit] ∨ plan = [.quit, .quit] → At .closing plan last

theorem At.startup : At .opening Plan.startup .null := .opening

theorem At.closing_of_quit {σ : Stage} {plan : Plan} {last : Json} (h : At σ plan last) (hq : plan.pop.1 = .quit) :
    σ = .closing := by
  cases h <;> first | rfl | simp [Plan.pop] at hq

theorem At.head?_opening {plan : Plan} {last : Json} (h : At .opening plan last) :
    plan.head? = some .authenticate := by
  cases h
  rfl

/-! ## moves -/

/-- Where an answer to the main menu leads. -/
def Stage.ofMenu : Operation → Stage
  | .listAndChoose => .listing
  | .collectFields => .creating
  | _ => .closing

/-- Where an answer to the action menu of a kit leads. -/
def Stage.ofAction (id : String) : Operation → Stage
  | .view => .viewing id
  | .collectFields => .editing id
  | _ => .deleting id

@[simp]
theorem Stage.kit?_ofMenu (i : Fin mainMenu.labels.length) : (ofMenu (mainMenu.value i)).kit? = none := by
  match i with
  | ⟨0, _⟩ => rfl
  | ⟨1, _⟩ => rfl
  | ⟨2, _⟩ => rfl

@[simp]
theorem Stage.kit?_ofAction (id : String) (i : Fin actionMenu.labels.length) :
    (ofAction id (actionMenu.value i)).kit? = some id := by
  match i with
  | ⟨0, _⟩ => rfl
  | ⟨1, _⟩ => rfl
  | ⟨2, _⟩ => rfl

/-- What an operation does at a stage. -/
inductive Move (A : Answers) : Stage → Operation → List Event → Except Stop Stage → Prop
  | authenticate {es : List Event} {x : Except Stop Reply} : Exchange A .listKits failureNotice es x →
      Move A .opening .authenticate es (x.map fun _ => .menu)
  | menuFault {f : Fault} : A (.chooseOperation mainMenu) (.error f) →
      Move A .menu .mainMenu [⟨.chooseOperation mainMenu, none⟩] (.error (.fault f))
  | menu (i : Fin mainMenu.labels.length) : Move A .menu .mainMenu [⟨.chooseOperation mainMenu, some i⟩]
      (.ok (.ofMenu (mainMenu.value i)))
  | listFault {es : List Event} {x : Stop} : Listing A es [] (.error x) →
      Move A .listing .listAndChoose es (.error x)
  | unlisted {es : List Event} : Listing A es [.quit] (.ok .null) → Move A .listing .listAndChoose es (.ok .closing)
  | createFirst {es : List Event} : Listing A es [.collectFields] (.ok .null) →
      Move A .listing .listAndChoose es (.ok .creating)
  | listed {es : List Event} {id : String} : Listing A es [.chooseAction] (.ok (.string id)) →
      Move A .listing .listAndChoose es (.ok (.acting id))
  | actionFault {id : String} {f : Fault} : A (.chooseOperation actionMenu) (.error f) →
      Move A (.acting id) .chooseAction [⟨.chooseOperation actionMenu, none⟩] (.error (.fault f))
  | action {id : String} (i : Fin actionMenu.labels.length) :
      Move A (.acting id) .chooseAction [⟨.chooseOperation actionMenu, some i⟩]
        (.ok (.ofAction id (actionMenu.value i)))
  | view {id : String} {es : List Event} {x : Except Stop Reply} :
      Exchange A (.getKit (.string id)) (fun reply => some (.showKit reply)) es x →
      Move A (.viewing id) .view es (x.map fun _ => .viewed id)
  | editFault {id : String} {f : Fault} : A (.confirm editQuestion) (.error f) →
      Move A (.viewed id) .afterView [⟨.confirm editQuestion, none⟩] (.error (.fault f))
  | edit {id : String} (yes : Bool) : Move A (.viewed id) .afterView [⟨.confirm editQuestion, some yes⟩]
      (.ok (if yes then .editing id else .closing))
  | fieldsFault {σ : Stage} {f : Fault} : (∃ id, σ = .editing id) ∨ σ = .creating → A .collectFields (.error f) →
      Move A σ .collectFields [⟨.collectFields, none⟩] (.error (.fault f))
  | fields {id : String} (fields : Fields) :
      Move A (.editing id) .collectFields [⟨.collectFields, some fields⟩] (.ok (.saving id))
  | newFields (fields : Fields) : Move A .creating .collectFields [⟨.collectFields, some fields⟩] (.ok .created)
  | save {id : String} {fields : Fields} {es : List Event} {x : Except Stop Reply} :
      Exchange A (.saveKit fields (.string id)) (fun reply => some (.showKit reply)) es x →
      Move A (.saving id) .save es (x.map fun _ => .viewed id)
  | create {fields : Fields} {es : List Event} {x : Except Stop Reply} :
      Exchange A (.saveKit fields .null) (fun reply => some (.showKit reply)) es x →
      Move A .created .save es (x.map fun _ => .closing)
  | delete {id : String} {es : List Event} {x : Except Stop Reply} :
      Exchange A (.deleteKit (.string id)) (fun reply => some (.showDeleted reply)) es x →
      Move A (.deleting id) .delete es (x.map fun _ => .closing)

/-- A step ends in `x`, its move in `r`: both are stopped alike, or the session is at the stage that the move leads
to. -/
inductive Meets (plan : Plan) : Except Stop Json → Except Stop Stage → Prop
  | error {x : Stop} : Meets plan (.error x) (.error x)
  | ok {v : Json} {σ : Stage} : At σ plan v → Meets plan (.ok v) (.ok σ)

theorem Meets.map {α : Type} {plan : Plan} {x : Except Stop α} {v : Json} {σ : Stage} (h : At σ plan v) :
    Meets plan (x.map fun _ => v) (x.map fun _ => σ) := by
  cases x with
  | error y => exact .error
  | ok a => exact .ok h

theorem eq_of_map_eq_ok {α : Type} {x : Except Stop α} {σ τ : Stage} (h : Except.ok τ = x.map fun _ => σ) :
    τ = σ := by
  cases x with
  | error y => simp [Except.map] at h
  | ok a => exact Except.ok.inj h

theorem eq_of_map_eq_error {α : Type} {x : Except Stop α} {y : Stop} {σ : Stage}
    (h : Except.error y = x.map fun _ => σ) : x = .error y := by
  cases x with
  | error z => exact congrArg _ (Except.error.inj h).symm
  | ok a => simp [Except.map] at h

theorem fieldsOf_put (id : Json) (fields : Fields) :
    fieldsOf (.object (Entries.put idField id fields)) = .ok (Entries.put idField id fields) := by
  cases fields with
  | nil => rfl
  | cons e fields =>
    obtain ⟨k, v⟩ := e
    by_cases h : k = idField <;> simp [fieldsOf, Json.truthy, Entries.put, h]

theorem field_put (id : Json) (fields : Fields) :
    (Json.object (Entries.put idField id fields)).field idField = id := by
  simp [Json.field, Entries.get?_put_self, Json.ofOption]

theorem menu_meets {rest : Plan} (hrest : rest = [.quit]) (i : Fin mainMenu.labels.length) :
    At (.ofMenu (mainMenu.value i)) (mainMenu.value i :: rest) .null := by
  subst hrest
  match i with
  | ⟨0, _⟩ => exact .listing
  | ⟨1, _⟩ => exact .creating
  | ⟨2, _⟩ => exact .closing (.inr rfl)

theorem action_meets (id : String) (i : Fin actionMenu.labels.length) :
    At (.ofAction id (actionMenu.value i)) (follow (actionMenu.value i) ++ [.quit]) (.string id) := by
  match i with
  | ⟨0, _⟩ => exact .viewing
  | ⟨1, _⟩ => exact .editing
  | ⟨2, _⟩ => exact .deleting

theorem listing_meets {es : List Event} {ops : List Operation} {x : Except Stop Json} (h : Listing A es ops x) :
    ∃ r, Move A .listing .listAndChoose es r ∧ Meets (ops ++ [.quit]) x r := by
  have hmove := h
  cases h with
  | stopped _ => exact ⟨_, .listFault hmove, .error⟩
  | refused _ _ => exact ⟨_, .unlisted hmove, .ok (.closing (.inr rfl))⟩
  | unusable _ _ _ => exact ⟨_, .listFault hmove, .error⟩
  | listed _ _ _ ho =>
    cases ho with
    | unasked _ => exact ⟨_, .listFault hmove, .error⟩
    | @asked create _ =>
      cases create with
      | false => exact ⟨_, .unlisted hmove, .ok (.closing (.inr rfl))⟩
      | true => exact ⟨_, .createFirst hmove, .ok .creating⟩
    | stopped _ _ => exact ⟨_, .listFault hmove, .error⟩
    | refused _ _ => exact ⟨_, .unlisted hmove, .ok (.closing (.inr rfl))⟩
    | unchosen _ _ _ => exact ⟨_, .listFault hmove, .error⟩
    | chosen _ _ _ => exact ⟨_, .listed hmove, .ok .acting⟩

/-- **At each stage the step of the next operation makes a move**, and the session is then at the stage that it leads
to. -/
theorem move_of_course {σ : Stage} {op : Operation} {rest : Plan} {last : Json} {es : List Event}
    {ops : List Operation} {x : Except Stop Json} (hσ : At σ (op :: rest) last) (hop : op ≠ .quit)
    (h : (step op last).Course A es ops x) : ∃ r, Move A σ op es r ∧ Meets (ops ++ rest) x r := by
  cases hσ with
  | opening =>
    obtain ⟨rfl, y, hy, rfl⟩ := course_authenticate h
    exact ⟨_, .authenticate hy, .map .menu⟩
  | menu =>
    rcases course_chooseOperation h with ⟨f, hf, rfl, rfl, rfl⟩ | ⟨i, -, rfl, rfl, rfl⟩
    · exact ⟨_, .menuFault hf, .error⟩
    · exact ⟨_, .menu i, .ok (menu_meets rfl i)⟩
  | listing => exact listing_meets (course_listAndChoose h)
  | creating =>
    obtain ⟨rfl, ⟨f, hf, rfl, rfl⟩ | ⟨fields, -, rfl, rfl⟩⟩ := course_collectFields h
    · exact ⟨_, .fieldsFault (.inr rfl) hf, .error⟩
    · exact ⟨_, .newFields fields, .ok .created⟩
  | @created fields =>
    obtain ⟨rfl, y, hy, rfl⟩ := course_save (fieldsOf_put .null fields) h
    rw [saveOf, field_put] at hy
    exact ⟨_, .create hy, .map (.closing (.inl rfl))⟩
  | acting =>
    rcases course_chooseAction h with ⟨f, hf, rfl, rfl, rfl⟩ | ⟨i, -, rfl, rfl, rfl⟩
    · exact ⟨_, .actionFault hf, .error⟩
    · exact ⟨_, .action i, .ok (action_meets _ i)⟩
  | viewing =>
    obtain ⟨rfl, y, hy, rfl⟩ := course_view rfl h
    exact ⟨_, .view hy, .map .viewed⟩
  | viewed =>
    rcases course_afterView h with ⟨f, hf, rfl, rfl, rfl⟩ | ⟨yes, -, rfl, rfl, rfl⟩
    · exact ⟨_, .editFault hf, .error⟩
    · cases yes with
      | false => exact ⟨_, .edit false, .ok (.closing (.inl rfl))⟩
      | true => exact ⟨_, .edit true, .ok .editing⟩
  | @editing id =>
    obtain ⟨rfl, ⟨f, hf, rfl, rfl⟩ | ⟨fields, -, rfl, rfl⟩⟩ := course_collectFields h
    · exact ⟨_, .fieldsFault (.inl ⟨id, rfl⟩) hf, .error⟩
    · exact ⟨_, .fields fields, .ok .saving⟩
  | @saving id fields =>
    obtain ⟨rfl, y, hy, rfl⟩ := course_save (fieldsOf_put (.string id) fields) h
    rw [saveOf, field_put] at hy
    rw [field_put]
    exact ⟨_, .save hy, .map .viewed⟩
  | deleting =>
    obtain ⟨rfl, y, hy, rfl⟩ := course_delete rfl h
    exact ⟨_, .delete hy, .map (.closing (.inl rfl))⟩
  | closing hplan => rcases hplan with hplan | hplan <;> simp_all

/-! ## runs from the start -/

section Outcome

variable {L : Stage → List Operation → List Event → Prop}

/-- The session is at a stage, and `L` holds of the stage and the record so far. -/
def Staged (L : Stage → List Operation → List Event → Prop) (s : Session ω) : Prop :=
  ∃ σ, At σ s.plan s.last ∧ L σ s.operations s.events

/-- How a run from the start can end, and what `L` says of the record before the last move. -/
inductive Outcome (A : Answers) (L : Stage → List Operation → List Event → Prop) :
    Ending → List Operation → List Event → Prop
  | unwelcomed {ops : List Operation} {es : List Event} {f : Fault} : L .menu ops es →
      A (.notify .welcome) (.error f) →
      Outcome A L (.stopped (.fault f)) ops (es ++ [⟨.notify .welcome, none⟩])
  | stopped {σ : Stage} {op : Operation} {ops : List Operation} {es es' : List Event} {x : Stop} : L σ ops es →
      Move A σ op es' (.error x) → Outcome A L (.stopped x) (ops ++ [op]) (es ++ es')
  | unfinished {σ : Stage} {ops : List Operation} {es : List Event} : L σ ops es → Outcome A L .unfinished ops es
  | unparted {ops : List Operation} {es : List Event} {f : Fault} : L .closing ops es →
      A (.notify .goodbye) (.error f) →
      Outcome A L (.stopped (.fault f)) (ops ++ [.quit]) (es ++ [⟨.notify .goodbye, none⟩])
  | finished {ops : List Operation} {es : List Event} : L .closing ops es →
      Outcome A L .finished (ops ++ [.quit]) (es ++ [⟨.notify .goodbye, some ()⟩])

theorem Performs.move {σ : Stage} {op : Operation} {rest : Plan} {s s' : Session ω} {es : List Event}
    {x : Except Stop Json} (hσ : At σ s.plan s.last) (hp : s.plan = op :: rest) (hop : op ≠ .quit)
    (h : Performs A op { s with plan := rest } es x s') : ∃ r, Move A σ op es r ∧ Meets s'.plan x r := by
  obtain ⟨ops, hcourse, hplan⟩ := h.course
  rw [hplan]
  exact move_of_course (hp ▸ hσ) hop hcourse

theorem preserves_staged {op : Operation} (hop : op ≠ .quit)
    (hmove : ∀ σ es τ ops evs, L σ ops evs → Move A σ op es (.ok τ) → L τ (ops ++ [op]) (evs ++ es)) :
    Preserves A op (Staged L : Session ω → Prop) := by
  rintro rest s es v s' ⟨σ, hσ, hL⟩ hp h
  obtain ⟨r, hm, hmeets⟩ := h.move hσ hp hop
  cases hmeets with
  | ok hτ => exact ⟨_, h.last v rfl ▸ hτ, by rw [h.operations, h.events]; exact hmove _ _ _ _ _ hL hm⟩

theorem outcome_of_worked {e : Ending} {s : Session ω} (he : e ≠ .finished) (h : Worked A (Staged L) e s) :
    Outcome A L e s.operations s.events := by
  cases h with
  | stopped hs hp hop h =>
    obtain ⟨σ, hσ, hL⟩ := hs
    obtain ⟨r, hm, hmeets⟩ := h.move hσ hp hop
    cases hmeets with
    | error => rw [h.operations, h.events]; exact .stopped hL hm
  | unfinished hs =>
    obtain ⟨σ, -, hL⟩ := hs
    exact .unfinished hL
  | finished => exact absurd rfl he

/-- `quit` comes up at the last stage only. -/
theorem Worked.closing {s : Session ω} (h : Worked A (Staged L) .finished s) :
    ∃ ops, L .closing ops s.events ∧ s.operations = ops ++ [.quit] := by
  cases h with
  | finished hs hq _ _ ho he =>
    obtain ⟨σ, hσ, hL⟩ := hs
    obtain rfl := hσ.closing_of_quit hq
    exact ⟨_, he ▸ hL, ho⟩

/-- Before the welcome the session is at one of the first two stages. -/
def Opened (L : Stage → List Operation → List Event → Prop) : Session ω → Prop :=
  Staged fun σ ops es => (σ = .opening ∨ σ = .menu) ∧ L σ ops es

theorem preserves_opened
    (hmove : ∀ σ op es τ ops evs, L σ ops evs → Move A σ op es (.ok τ) → L τ (ops ++ [op]) (evs ++ es)) :
    Preserves A .authenticate (Opened L : Session ω → Prop) := by
  refine preserves_staged (by simp) fun σ es τ ops evs hL hm => ?_
  refine ⟨.inr ?_, hmove σ _ es τ ops evs hL.2 hm⟩
  generalize hr : (Except.ok τ : Except Stop Stage) = r at hm
  cases hm with
  | authenticate _ => exact eq_of_map_eq_ok hr

theorem Opened.menu {s : Session ω} (h : Opened L s) (hhead : s.plan.head? ≠ some .authenticate) :
    At .menu s.plan s.last ∧ L .menu s.operations s.events := by
  obtain ⟨σ, hσ, rfl | rfl, hL⟩ := h
  · exact absurd hσ.head?_opening hhead
  · exact ⟨hσ, hL⟩

theorem Opened.welcomed
    (hwelcome : ∀ ops es, L .menu ops es → L .menu ops (es ++ [⟨.notify .welcome, some ()⟩])) {s s' : Session ω}
    (h : Opened L s) (hhead : s.plan.head? ≠ some .authenticate) (hn : Notified .welcome s (some ()) s') :
    Staged L s' := by
  obtain ⟨hσ, hL⟩ := h.menu hhead
  refine ⟨.menu, ?_, ?_⟩
  · rw [hn.plan, hn.last]
    exact hσ
  · rw [hn.operations, hn.events]
    exact hwelcome _ _ hL

/-- What every move preserves holds before every operation of a run from the start. -/
theorem History.staged (hc : c.Keeps W A) (hstart : L .opening [] [])
    (hwelcome : ∀ ops es, L .menu ops es → L .menu ops (es ++ [⟨.notify .welcome, some ()⟩]))
    (hmove : ∀ σ op es τ ops evs, L σ ops evs → Move A σ op es (.ok τ) → L τ (ops ++ [op]) (evs ++ es))
    {w : ω} (hw : W w) {early late : List (Deed ω)} {e : Ending} {t : Session ω}
    (h : History c { world := w } early late e t) : ∀ d ∈ early ++ late, Staged L d.before := by
  obtain ⟨hearly, hlate⟩ := h.keeps hc (preserves_opened hmove) (fun _ _ => Opened.welcomed hwelcome)
    (fun op hop => preserves_staged hop fun σ => hmove σ op) hw ⟨.opening, .startup, .inl rfl, hstart⟩
  intro d hd
  rcases List.mem_append.1 hd with hd | hd
  · obtain ⟨-, σ, hσ, -, hL⟩ := hearly d hd
    exact ⟨σ, hσ, hL⟩
  · exact (hlate d hd).2

/-- **What every move preserves holds at the end of every run from the start.** -/
theorem run_outcome (hc : c.Keeps W A) (hstart : L .opening [] [])
    (hwelcome : ∀ ops es, L .menu ops es → L .menu ops (es ++ [⟨.notify .welcome, some ()⟩]))
    (hmove : ∀ σ op es τ ops evs, L σ ops evs → Move A σ op es (.ok τ) → L τ (ops ++ [op]) (evs ++ es))
    (n : Nat) {w : ω} (hw : W w) :
    W (run c n { world := w }).2.world ∧
      Outcome A L (run c n { world := w }).1 (run c n { world := w }).2.operations
        (run c n { world := w }).2.events := by
  obtain ⟨hworld, hended⟩ := run_ended hc (preserves_opened hmove) (fun _ _ => Opened.welcomed hwelcome)
    (fun op hop => preserves_staged hop fun σ => hmove σ op) n (s := { world := w }) hw
    ⟨.opening, .startup, .inl rfl, hstart⟩
  refine ⟨hworld, ?_⟩
  generalize run c n { world := w } = t at hended ⊢
  obtain ⟨e, s⟩ := t
  cases hended with
  | refused hs hp h =>
    obtain ⟨σ, hσ, -, hL⟩ := hs
    obtain ⟨r, hm, hmeets⟩ := h.move hσ hp (by simp)
    cases hmeets with
    | error => rw [h.operations, h.events]; exact .stopped hL hm
  | unwelcomed hs hhead hf hn =>
    rw [hn.operations, hn.events]
    exact .unwelcomed (Opened.menu hs hhead).2 hf
  | worked he h => exact outcome_of_worked he h
  | unparted h hf hn =>
    obtain ⟨ops, hL, ho⟩ := h.closing
    rw [hn.operations, hn.events, ho]
    exact .unparted hL hf
  | finished h hn =>
    obtain ⟨ops, hL, ho⟩ := h.closing
    rw [hn.operations, hn.events, ho]
    exact .finished hL

end Outcome

end KitConsole.Session
