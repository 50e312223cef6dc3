import KitConsole.Proofs.Stage

/-!
# The grammar of a session

* `EditTail`, `KitTail`, `ListTail`, `MenuTail` — what may follow a look at a kit, the choice of a kit, the listing and
  the main menu.
* `SessionWord` — the orders in which a session may take its operations, from the first one to `quit`.
* `run_operations_word` — a finished run has taken such a word, and any other one the beginning of such a word.
-/

namespace KitConsole.Session

variable {ω : Type} {A : Answers}

/-! ## words -/

/-- After a look at a kit: it is edited, saved and looked at again, any number of times. -/
inductive EditTail : List Operation → Prop
  | quit : EditTail [.quit]
  | again {w : List Operation} : EditTail w → EditTail (.collectFields :: .save :: .afterView :: w)

/-- After the choice of a kit. -/
inductive KitTail : List Operation → Prop
  | delete : KitTail [.delete, .quit]
  | view {w : List Operation} : EditTail w → KitTail (.view :: .afterView :: w)
  | update {w : List Operation} : EditTail w → KitTail (.collectFields :: .save :: .afterView :: w)

/-- After the listing. -/
inductive ListTail : List Operation → Prop
  | quit : ListTail [.quit]
  | create : ListTail [.collectFields, .save, .quit]
  | choose {w : List Operation} : KitTail w → ListTail (.chooseAction :: w)

/-- After the main menu. -/
inductive MenuTail : List Operation → Prop
  | quit : MenuTail [.quit]
  | create : MenuTail [.collectFields, .save, .quit]
  | list {w : List Operation} : ListTail w → MenuTail (.listAndChoose :: w)

/-- The operations of a session from its start to `quit`. -/
inductive SessionWord : List Operation → Prop
  | start {w : List Operation} : MenuTail w → SessionWord (.authenticate :: .mainMenu :: w)

/-! ## what is left at a stage -/

/-- The operations that may be taken from a stage on. -/
inductive Rest : Stage → List Operation → Prop
  | opening {w : List Operation} : SessionWord w → Rest .opening w
  | menu {w : List Operation} : MenuTail w → Rest .menu (.mainMenu :: w)
  | listing {w : List Operation} : ListTail w → Rest .listing (.listAndChoose :: w)
  | creating : Rest .creating [.collectFields, .save, .quit]
  | created : Rest .created [.save, .quit]
  | acting {id : String} {w : List Operation} : KitTail w → Rest (.acting id) (.chooseAction :: w)
  | viewing {id : String} {w : List Operation} : EditTail w → Rest (.viewing id) (.view :: .afterView :: w)
  | viewed {id : String} {w : List Operation} : EditTail w → Rest (.viewed id) (.afterView :: w)
  | editing {id : String} {w : List Operation} : EditTail w →
      Rest (.editing id) (.collectFields :: .save :: .afterView :: w)
  | saving {id : String} {w : List Operation} : EditTail w → Rest (.saving id) (.save :: .afterView :: w)
  | deleting {id : String} : Rest (.deleting id) [.delete, .quit]
  | closing : Rest .closing [.quit]

theorem Rest.of_menu (i : Fin Flow.mainMenu.labels.length) {w : List Operation}
    (h : Rest (.ofMenu (Flow.mainMenu.value i)) w) : Rest .menu (.mainMenu :: w) := by
  match i with
  | ⟨0, _⟩ =>
    cases (show Rest .listing w from h) with
    | listing hw => exact .menu (.list hw)
  | ⟨1, _⟩ =>
    cases (show Rest .creating w from h) with
    | creating => exact .menu .create
  | ⟨2, _⟩ =>
    cases (show Rest .closing w from h) with
    | closing => exact .menu .quit

theorem Rest.of_action {id : String} (i : Fin Flow.actionMenu.labels.length) {w : List Operation}
    (h : Rest (.ofAction id (Flow.actionMenu.value i)) w) : Rest (.acting id) (.chooseAction :: w) := by
  match i with
  | ⟨0, _⟩ =>
    cases (show Rest (.viewing id) w from h) with
    | viewing hw => exact .acting (.view hw)
  | ⟨1, _⟩ =>
    cases (show Rest (.editing id) w from h) with
    | editing hw => exact .acting (.update hw)
  | ⟨2, _⟩ =>
    cases (show Rest (.deleting id) w from h) with
    | deleting => exact .acting .delete

/-- What is left after a move is left before it, once its operation is put in front. -/
theorem Move.rest {σ τ : Stage} {op : Operation} {es : List Event} {w : List Operation}
    (h : Move A σ op es (.ok τ)) (hw : Rest τ w) : Rest σ (op :: w) := by
  generalize hr : (Except.ok τ : Except Stop Stage) = r at h
  cases h with
  | authenticate _ =>
    obtain rfl := eq_of_map_eq_ok hr
    cases hw with
    | menu hw => exact .opening (.start hw)
  | menu i =>
    obtain rfl := Except.ok.inj hr
    exact .of_menu i hw
  | unlisted _ =>
    obtain rfl := Except.ok.inj hr
    cases hw with
    | closing => exact .listing .quit
  | createFirst _ =>
    obtain rfl := Except.ok.inj hr
    cases hw with
    | creating => exact .listing .create
  | listed _ =>
    obtain rfl := Except.ok.inj hr
    cases hw with
    | acting hw => exact .listing (.choose hw)
  | action i =>
    obtain rfl := Except.ok.inj hr
    exact .of_action i hw
  | view _ =>
    obtain rfl := eq_of_map_eq_ok hr
    cases hw with
    | viewed hw => exact .viewing hw
  | edit yes =>
    obtain rfl := Except.ok.inj hr
    cases yes with
    | false =>
      cases hw with
      | closing => exact .viewed .quit
    | true =>
      cases hw with
      | editing hw => exact .viewed (.again hw)
  | fields _ =>
    obtain rfl := Except.ok.inj hr
    cases hw with
    | saving hw => exact .editing hw
  | newFields _ =>
    obtain rfl := Except.ok.inj hr
    cases hw with
    | created => exact .creating
  | save _ =>
    obtain rfl := eq_of_map_eq_ok hr
    cases hw with
    | viewed hw => exact .saving hw
  | create _ =>
    obtain rfl := eq_of_map_eq_ok hr
    cases hw with
    | closing => exact .created
  | delete _ =>
    obtain rfl := eq_of_map_eq_ok hr
    cases hw with
    | closing => exact .deleting
  | _ => simp at hr

theorem exists_rest (σ : Stage) : ∃ w, Rest σ w := by
  cases σ with
  | opening => exact ⟨_, .opening (.start .quit)⟩
  | menu => exact ⟨_, .menu .quit⟩
  | listing => exact ⟨_, .listing .quit⟩
  | creating => exact ⟨_, .creating⟩
  | created => exact ⟨_, .created⟩
  | acting id => exact ⟨_, .acting .delete⟩
  | viewing id => exact ⟨_, .viewing .quit⟩
  | viewed id => exact ⟨_, .viewed .quit⟩
  | editing id => exact ⟨_, .editing .quit⟩
  | saving id => exact ⟨_, .saving .quit⟩
  | deleting id => exact ⟨_, .deleting⟩
  | closing => exact ⟨_, .closing⟩

/-- An operation that is stopped is the first of those that were left. -/
theorem Move.rest_of_stopped {σ : Stage} {op : Operation} {es : List Event} {x : Stop}
    (h : Move A σ op es (.error x)) : ∃ w, Rest σ (op :: w) := by
  generalize hr : (Except.error x : Except Stop Stage) = r at h
  cases h with
  | authenticate _ => exact ⟨_, .opening (.start .quit)⟩
  | menuFault _ => exact ⟨_, .menu .quit⟩
  | listFault _ => exact ⟨_, .listing .quit⟩
  | actionFault _ => exact ⟨_, .acting .delete⟩
  | view _ => exact ⟨_, .viewing .quit⟩
  | editFault _ => exact ⟨_, .viewed .quit⟩
  | fieldsFault hσ _ =>
    rcases hσ with ⟨id, rfl⟩ | rfl
    · exact ⟨_, .editing .quit⟩
    · exact ⟨_, .creating⟩
  | save _ => exact ⟨_, .saving .quit⟩
  | create _ => exact ⟨_, .created⟩
  | delete _ => exact ⟨_, .deleting⟩
  | _ => simp at hr

/-! ## runs -/

/-- **A finished run has taken the operations of a word**; any other run, stopped or not, the first ones of a word. -/
theorem run_operations_word (c : Counterpart ω) (n : Nat) (w : ω) :
    ((run c n { world := w }).1 = .finished → SessionWord (run c n { world := w }).2.operations) ∧
      ∃ word, SessionWord word ∧ (run c n { world := w }).2.operations <+: word := by
  -- whatever may follow at the stage reached makes a word of the operations taken so far
  let L : Stage → List Operation → List Event → Prop := fun σ ops _ => ∀ rest, Rest σ rest → SessionWord (ops ++ rest)
  have hstart : L .opening [] [] := by
    rintro rest ⟨hrest⟩
    exact hrest
  have hmove : ∀ σ op es τ ops evs, L σ ops evs → Move Answers.any σ op es (.ok τ) →
      L τ (ops ++ [op]) (evs ++ es) := by
    intro σ op es τ ops evs hL hm rest hrest
    rw [List.append_assoc]
    exact hL _ (hm.rest hrest)
  obtain ⟨-, h⟩ := run_outcome c.keeps_any hstart (fun _ _ hL => hL) hmove n (w := w) trivial
  generalize (run c n { world := w }).1 = e, (run c n { world := w }).2.operations = ops,
    (run c n { world := w }).2.events = es at h ⊢
  cases h with
  | @unwelcomed ops _ _ hL _ =>
    obtain ⟨rest, hrest⟩ := exists_rest .menu
    exact ⟨by simp, ops ++ rest, hL _ hrest, List.prefix_append _ _⟩
  | @stopped σ op ops _ _ _ hL hm =>
    obtain ⟨rest, hrest⟩ := hm.rest_of_stopped
    exact ⟨by simp, ops ++ op :: rest, hL _ hrest, rest, by simp⟩
  | @unfinished σ ops _ hL =>
    obtain ⟨rest, hrest⟩ := exists_rest σ
    exact ⟨by simp, ops ++ rest, hL _ hrest, List.prefix_append _ _⟩
  | unparted hL _ => exact ⟨by simp, _, hL _ .closing, List.prefix_rfl⟩
  | finished hL => exact ⟨fun _ => hL _ .closing, _, hL _ .closing, List.prefix_rfl⟩

end KitConsole.Session
