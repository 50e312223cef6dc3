import KitConsole.Proofs.KitMenu
import KitConsole.Proofs.RemoteAnswers
import KitConsole.Proofs.Stage

/-!
# How a session with a remote service ends

* `Countless`, `FetchedUpTo`, `Faulty` — the two ways in which a listing brings the listing step to a fault: it is a
  number or `true`, or it holds a kit with a blank id.
* `Move.faulty` — no other move is stopped by a fault.
* `conduct_status_iff` — a session that ends has an exit status exactly if it was not stopped by such a listing.
-/

namespace KitConsole

/-- A number or `true`: something, but no collection. -/
def Json.Countless (v : Json) : Prop :=
  v.truthy = true ∧
    match v with
    | .bool _ | .int _ | .float _ => True
    | _ => False

namespace Flow

theorem listedIds_eq_error {v : Json} {f : Fault} (h : listedIds v = .error f) : v.Countless := by
  unfold listedIds at h
  split at h
  · refine ⟨by assumption, ?_⟩
    cases v with
    | bool _ => trivial
    | int _ => trivial
    | float _ => trivial
    | _ => simp_all [Json.truthy]
  · simp at h

/-! ## exchanges -/

section Exchange

variable {c : Call} {shown : Reply → Option Notice} {es : List Event}

theorem reacts_remote {reply : Reply} {y : Except Stop Unit} (h : Reacts remoteAnswers shown reply es y) :
    (∃ message, y = .error (.rejected message)) ∨ y = .ok () := by
  cases h with
  | rejected _ => exact .inl ⟨_, rfl⟩
  | told _ ht =>
    generalize reaction shown reply = n at ht
    cases ht with
    | silent => exact .inr rfl
    | heard _ => exact .inr rfl
    | fault hf => exact absurd hf id

theorem stopped_of_exchange {x : Stop} (h : Exchange remoteAnswers c shown es (.error x)) :
    (∃ message, x = .rejected message) ∨ x = .fault .blankKitId ∧ ¬ c.Addressed ∧ es = [⟨.call c, none⟩] := by
  rcases h.of_error with ⟨f, ⟨hc, rfl⟩, rfl, rfl⟩ | ⟨reply, es', -, hx, -⟩
  · exact .inr ⟨rfl, hc, rfl⟩
  · rcases reacts_remote hx with ⟨message, hmessage⟩ | hok
    · exact .inl ⟨message, Except.error.inj hmessage⟩
    · simp at hok

theorem addressed_of_exchange {A : Answers} (hA : A.Addressed) {reply : Reply} (h : Exchange A c shown es (.ok reply)) :
    c.Addressed := by
  obtain ⟨es', hc, -, -⟩ := h.of_ok
  exact hA _ _ hc

theorem events_of_exchange {A : Answers} {reply : Reply} (h : Exchange A c failureNotice es (.ok reply))
    (hok : reply.ok = true) : es = [⟨.call c, some reply⟩] := by
  obtain ⟨es', -, hx, rfl⟩ := h.of_ok
  obtain ⟨rfl, -⟩ := reacts_of_ok hx hok
  rfl

end Exchange

/-! ## fetched kits -/

/-- Kits are fetched without failure up to one whose id is blank. -/
inductive FetchedUpTo : List String → List Event → Prop
  | blank {id : String} {ids : List String} : Text.strip id = "" →
      FetchedUpTo (id :: ids) [⟨.call (.getKit (.string id)), none⟩]
  | fetched {id : String} {ids : List String} {es : List Event} {info : Reply} : info.ok = true →
      FetchedUpTo ids es → FetchedUpTo (id :: ids) (⟨.call (.getKit (.string id)), some info⟩ :: es)

theorem stopped_of_fetching {ids : List String} {es : List Event} {x : Stop}
    (h : Fetching remoteAnswers ids es (.error x)) :
    (∃ message, x = .rejected message) ∨ x = .fault .blankKitId ∧ FetchedUpTo ids es := by
  generalize hr : (Except.error x : Except Stop (Option (List Reply))) = r at h
  induction h with
  | nil => simp at hr
  | stopped hx =>
    obtain rfl := Except.error.inj hr
    rcases stopped_of_exchange hx with hx | ⟨rfl, hc, rfl⟩
    · exact .inl hx
    · exact .inr ⟨rfl, .blank (Remote.strip_eq_empty hc)⟩
  | refused _ _ => simp at hr
  | @fetched _ _ _ _ _ y hx hok _ ih =>
    obtain rfl := events_of_exchange hx hok
    cases y with
    | error y =>
      obtain rfl := Except.error.inj hr
      exact (ih rfl).imp_right fun ⟨hx, hes⟩ => ⟨hx, .fetched hok hes⟩
    | ok _ => simp [Except.map] at hr

theorem addressed_of_fetching {A : Answers} (hA : A.Addressed) {ids : List String} {es : List Event}
    {infos : List Reply} (h : Fetching A ids es (.ok (some infos))) :
    infos.length = ids.length ∧ ∀ id ∈ ids, (Call.getKit (.string id)).Addressed := by
  generalize hr : (Except.ok (some infos) : Except Stop (Option (List Reply))) = r at h
  induction h generalizing infos with
  | nil =>
    obtain rfl := Option.some.inj (Except.ok.inj hr)
    exact ⟨rfl, by simp⟩
  | stopped _ => simp at hr
  | refused _ _ => simp at hr
  | @fetched _ _ _ _ _ y hx _ _ ih =>
    rcases y with y | _ | rest
    · simp [Except.map] at hr
    · simp [Except.map] at hr
    · obtain rfl := Option.some.inj (Except.ok.inj hr)
      obtain ⟨hlength, hrest⟩ := ih rfl
      exact ⟨congrArg (· + 1) hlength, List.forall_mem_cons.2 ⟨addressed_of_exchange hA hx, hrest⟩⟩

/-! ## the kits that are offered -/

theorem map_named {ids : List String} {infos : List Reply} (h : infos.length = ids.length) :
    (named ids infos).map (·.1) = ids := by
  induction ids generalizing infos with
  | nil => rfl
  | cons id ids ih =>
    cases infos with
    | nil => simp at h
    | cons info infos => exact congrArg (id :: ·) (ih (Nat.succ.inj h))

theorem value_mem {ids : List String} {infos : List Reply} (h : infos.length = ids.length)
    (i : Fin (kitMenu (offerAll [] (named ids infos))).labels.length) :
    (kitMenu (offerAll [] (named ids infos))).value i ∈ ids := by
  have hid := value_kitMenu_mem (named ids infos) i
  rwa [map_named h] at hid

theorem labels_ne_nil {ids : List String} {infos : List Reply} (hne : ids ≠ []) (h : infos.length = ids.length) :
    (kitMenu (offerAll [] (named ids infos))).labels ≠ [] := by
  have hnamed : named ids infos ≠ [] := by
    intro hnil
    rw [← map_named h, hnil] at hne
    exact hne rfl
  have hkits : offerAll [] (named ids infos) ≠ [] := offerAll_ne_nil (.inr hnamed)
  simpa [Menu.labels, kitMenu, Entries.keys] using hkits

/-! ## the listing -/

/-- The listing brings its step to a fault: it is no collection, or a kit with a blank id comes up in it. -/
inductive Faulty : List Event → Prop
  | countless {listing : Reply} : listing.ok = true → listing.value.Countless →
      Faulty [⟨.call .listKits, some listing⟩]
  | blankId {listing : Reply} {ids : List String} {es : List Event} : listing.ok = true →
      listedIds listing.value = .ok ids → FetchedUpTo ids es → Faulty (⟨.call .listKits, some listing⟩ :: es)

theorem FetchedUpTo.getLast {ids : List String} {es : List Event} (h : FetchedUpTo ids es) :
    ∃ c r, es.getLast? = some ⟨.call c, r⟩ := by
  induction h with
  | blank _ => exact ⟨_, _, rfl⟩
  | fetched _ _ ih =>
    obtain ⟨c, r, h⟩ := ih
    exact ⟨c, r, by rw [List.getLast?_cons, h]; rfl⟩

theorem Faulty.getLast {es : List Event} (h : Faulty es) : ∃ c r, es.getLast? = some ⟨.call c, r⟩ := by
  cases h with
  | countless _ _ => exact ⟨_, _, rfl⟩
  | blankId _ _ hes =>
    obtain ⟨c, r, h⟩ := hes.getLast
    exact ⟨c, r, by rw [List.getLast?_cons, h]; rfl⟩

theorem stopped_of_offering {ids : List String} {es : List Event} {ops : List Operation} {x : Stop}
    (h : Offering remoteAnswers ids es ops (.error x)) :
    (∃ message, x = .rejected message) ∨ x = .fault .blankKitId ∧ FetchedUpTo ids es := by
  generalize hr : (Except.error x : Except Stop Json) = r at h
  cases h with
  | unasked hf => exact absurd hf id
  | asked _ => simp at hr
  | stopped _ hx => exact Except.error.inj hr ▸ stopped_of_fetching hx
  | refused _ _ => simp at hr
  | unchosen hne hx hf => exact absurd hf (labels_ne_nil hne (addressed_of_fetching remoteAnswers_addressed hx).1)
  | chosen _ _ _ => simp at hr

theorem stopped_of_listing {es : List Event} {ops : List Operation} {x : Stop}
    (h : Listing remoteAnswers es ops (.error x)) :
    (∃ message, x = .rejected message) ∨ (∃ f, x = .fault f) ∧ Faulty es := by
  generalize hr : (Except.error x : Except Stop Json) = r at h
  cases h with
  | stopped hx =>
    obtain rfl := Except.error.inj hr
    rcases stopped_of_exchange hx with hx | ⟨-, hc, -⟩
    · exact .inl hx
    · exact absurd trivial hc
  | refused _ _ => simp at hr
  | unusable hx hok hids =>
    obtain rfl := events_of_exchange hx hok
    exact .inr ⟨⟨_, Except.error.inj hr⟩, .countless hok (listedIds_eq_error hids)⟩
  | listed hx hok hids ho =>
    obtain rfl := events_of_exchange hx hok
    subst hr
    rcases stopped_of_offering ho with hx | ⟨hx, hes⟩
    · exact .inl hx
    · exact .inr ⟨⟨_, hx⟩, .blankId hok hids hes⟩

/-- A kit that was chosen has an address. -/
theorem addressed_of_listing {A : Answers} (hA : A.Addressed) {es : List Event} {ops : List Operation} {id : String}
    (h : Listing A es ops (.ok (.string id))) : (Call.getKit (.string id)).Addressed := by
  generalize hr : (Except.ok (.string id) : Except Stop Json) = r at h
  cases h with
  | stopped _ => simp at hr
  | refused _ _ => simp at hr
  | unusable _ _ _ => simp at hr
  | listed _ _ _ ho =>
    cases ho with
    | chosen _ hx _ =>
      obtain rfl := Json.string.inj (Except.ok.inj hr)
      obtain ⟨hlength, hids⟩ := addressed_of_fetching hA hx
      exact hids _ (value_mem hlength _)
    | _ => simp at hr

end Flow

namespace Session

open KitConsole.Flow

/-! ## moves -/

/-- A stage is about the kit of the stage before it, or about the one that was chosen. -/
theorem Move.kit_of_ok {A : Answers} {σ τ : Stage} {op : Operation} {es : List Event} {id : String}
    (h : Move A σ op es (.ok τ)) (hid : τ.kit? = some id) :
    σ.kit? = some id ∨ Listing A es [.chooseAction] (.ok (.string id)) := by
  generalize hr : (Except.ok τ : Except Stop Stage) = r at h
  cases h with
  | authenticate _ =>
    obtain rfl := eq_of_map_eq_ok hr
    simp [Stage.kit?] at hid
  | menu i =>
    obtain rfl := Except.ok.inj hr
    simp at hid
  | unlisted _ =>
    obtain rfl := Except.ok.inj hr
    simp [Stage.kit?] at hid
  | createFirst _ =>
    obtain rfl := Except.ok.inj hr
    simp [Stage.kit?] at hid
  | listed hl =>
    obtain rfl := Except.ok.inj hr
    obtain rfl := Option.some.inj hid
    exact .inr hl
  | action i =>
    obtain rfl := Except.ok.inj hr
    rw [Stage.kit?_ofAction] at hid
    exact .inl hid
  | view _ =>
    obtain rfl := eq_of_map_eq_ok hr
    exact .inl hid
  | edit yes =>
    obtain rfl := Except.ok.inj hr
    cases yes with
    | false => simp [Stage.kit?] at hid
    | true => exact .inl hid
  | fields _ =>
    obtain rfl := Except.ok.inj hr
    exact .inl hid
  | newFields _ =>
    obtain rfl := Except.ok.inj hr
    simp [Stage.kit?] at hid
  | save _ =>
    obtain rfl := eq_of_map_eq_ok hr
    exact .inl hid
  | create _ =>
    obtain rfl := eq_of_map_eq_ok hr
    simp [Stage.kit?] at hid
  | delete _ =>
    obtain rfl := eq_of_map_eq_ok hr
    simp [Stage.kit?] at hid
  | _ => simp at hr

/-- **Only the listing step is stopped by a fault.** -/
theorem Move.faulty {σ : Stage} {op : Operation} {es : List Event} {x : Stop}
    (h : Move remoteAnswers σ op es (.error x)) (hσ : ∀ id, σ.kit? = some id → (Call.getKit (.string id)).Addressed) :
    (∃ message, x = .rejected message) ∨ (∃ f, x = .fault f) ∧ op = .listAndChoose ∧ Faulty es := by
  have rejected : ∀ {c shown} {σ : Stage} {y : Except Stop Reply}, Exchange remoteAnswers c shown es y → c.Addressed →
      Except.error x = y.map (fun _ => σ) → ∃ message, x = .rejected message := by
    rintro c shown σ y hy hc hr
    obtain rfl := eq_of_map_eq_error hr
    rcases stopped_of_exchange hy with hx | ⟨-, hbad, -⟩
    · exact hx
    · exact absurd hc hbad
  generalize hr : (Except.error x : Except Stop Stage) = r at h
  cases h with
  | authenticate hy => exact .inl (rejected hy trivial hr)
  | menuFault hf => simp [remoteAnswers, mainMenu, mainMenuOptions, Menu.labels, Entries.keys] at hf
  | listFault hl =>
    obtain rfl := Except.error.inj hr
    rcases stopped_of_listing hl with hx | ⟨hx, hes⟩
    · exact .inl hx
    · exact .inr ⟨hx, rfl, hes⟩
  | actionFault hf => simp [remoteAnswers, actionMenu, kitActions, Menu.labels, Entries.keys] at hf
  | @view id _ _ hy => exact .inl (rejected hy (hσ id rfl) hr)
  | editFault hf => exact absurd hf id
  | fieldsFault _ hf => exact absurd hf id
  | @save id _ _ _ hy => exact .inl (rejected hy (hσ id rfl) hr)
  | create hy => exact .inl (rejected hy trivial hr)
  | @delete id _ _ hy => exact .inl (rejected hy (hσ id rfl) hr)
  | _ => simp at hr

/-! ## sessions -/

/-- The last thing in the record is a listing that the listing step could not cope with. -/
def StoppedByListing {ω : Type} (s : Session ω) : Prop :=
  s.operations.getLast? = some .listAndChoose ∧ ∃ before es, s.events = before ++ es ∧ Faulty es

/-- At a stage with a kit, the kit has an address. -/
def Known (σ : Stage) (_ : List Operation) (_ : List Event) : Prop :=
  ∀ id, σ.kit? = some id → (Call.getKit (.string id)).Addressed

section Conduct

variable {ω : Type} {c : Counterpart ω} {W : ω → Prop} {ops : List Operation} {es : List Event}

theorem known_of_move {A : Answers} (hA : A.Addressed) {σ τ : Stage} {op : Operation} {es' : List Event}
    {ops' : List Operation} {es'' : List Event} (hσ : Known σ ops es) (hm : Move A σ op es' (.ok τ)) :
    Known τ ops' es'' := by
  intro id hid
  rcases hm.kit_of_ok hid with hid | hl
  · exact hσ id hid
  · exact addressed_of_listing hA hl

theorem remote_outcome (hc : c.Keeps W remoteAnswers) (n : Nat) {w : ω} (hw : W w) :
    W (run c n { world := w }).2.world ∧
      Outcome remoteAnswers Known (run c n { world := w }).1 (run c n { world := w }).2.operations
        (run c n { world := w }).2.events := by
  exact run_outcome hc (by simp [Known, Stage.kit?]) (fun _ _ h => h)
    (fun _ _ _ _ _ _ hσ hm => known_of_move remoteAnswers_addressed hσ hm) n hw

theorem getLast_of_finished {L : Stage → List Operation → List Event → Prop}
    (h : Outcome remoteAnswers L .finished ops es) : ops.getLast? = some .quit := by
  cases h with
  | finished _ => simp

theorem faulty_of_outcome {f : Fault} (h : Outcome remoteAnswers Known (.stopped (.fault f)) ops es) :
    ops.getLast? = some .listAndChoose ∧ ∃ before es', es = before ++ es' ∧ Faulty es' := by
  cases h with
  | unwelcomed _ hf => exact absurd hf id
  | stopped hσ hm =>
    rcases hm.faulty hσ with ⟨message, hx⟩ | ⟨-, rfl, hes⟩
    · simp at hx
    · exact ⟨by simp, _, _, rfl, hes⟩
  | unparted _ hf => exact absurd hf id

theorem reportRejection_status (hc : c.Keeps W remoteAnswers) (message : String) {s : Session ω} (hs : W s.world) :
    (reportRejection c message s).1 = .status 1 ∧ ¬ StoppedByListing (reportRejection c message s).2 := by
  let t : Session ω := { s with log := s.log ++ [rejectionRecord message] }
  obtain ⟨-, ⟨f, hf, -⟩ | ⟨hr, hn⟩⟩ := notify_notified hc .authFailed t hs
  · exact absurd hf id
  · rcases hd : notify c .authFailed t with ⟨r, u⟩
    rw [hd] at hr hn
    subst hr
    have hreport : reportRejection c message s = (.status 1, u) := by simp only [reportRejection]; rw [hd]
    rw [hreport]
    refine ⟨rfl, ?_⟩
    rintro ⟨-, before, es, hevents, hes⟩
    obtain ⟨c', r, hlast⟩ := hes.getLast
    have hlast' := congrArg List.getLast? (hn.events.symm.trans hevents)
    rw [List.getLast?_append, List.getLast?_append, hlast] at hlast'
    simp at hlast'

/-- **A session with a remote service that ends has an exit status exactly if no listing stopped it.** -/
theorem conduct_status_iff (remote : Remote) {σ : Type} {u : Surface σ} (hu : u.Obliging) {wire : Wire}
    (hwire : wire.Willing) (w : σ) (n : Nat)
    (hended : (conduct (.of remote.serve u) n { world := (wire, w) }).1 ≠ .unfinished) :
    ((conduct (.of remote.serve u) n { world := (wire, w) }).1 = .status 0 ∨
        (conduct (.of remote.serve u) n { world := (wire, w) }).1 = .status 1) ↔
      ¬ StoppedByListing (conduct (.of remote.serve u) n { world := (wire, w) }).2 := by
  have hc := keeps_remoteAnswers remote hu
  generalize (Counterpart.of remote.serve u : Counterpart (Wire × σ)) = c at hc hended ⊢
  obtain ⟨hworld, houtcome⟩ := remote_outcome hc n (w := (wire, w)) hwire
  rcases hr : run c n { world := (wire, w) } with ⟨e, s⟩
  rw [hr] at hworld houtcome
  rcases e with _ | (message | f) | _
  · have hd : conduct c n { world := (wire, w) } = (.status 0, s) := by simp only [conduct]; rw [hr]
    rw [hd]
    refine ⟨fun _ hstopped => ?_, fun _ => .inl rfl⟩
    have hlast := (getLast_of_finished houtcome).symm.trans hstopped.1
    simp at hlast
  · have hd : conduct c n { world := (wire, w) } = reportRejection c message s := by simp only [conduct]; rw [hr]
    rw [hd]
    obtain ⟨hstatus, hnot⟩ := reportRejection_status hc message hworld
    exact ⟨fun _ => hnot, fun _ => .inr hstatus⟩
  · have hd : conduct c n { world := (wire, w) } = (.stopped (.fault f), s) := by simp only [conduct]; rw [hr]
    rw [hd]
    exact ⟨by simp, fun hnot => absurd (faulty_of_outcome houtcome) hnot⟩
  · have hd : conduct c n { world := (wire, w) } = (.unfinished, s) := by simp only [conduct]; rw [hr]
    rw [hd] at hended
    exact absurd rfl hended

end Conduct

/-! ## answers to the listing -/

/-- A service that answers the requests with these bodies, and a user who takes the first entry of every menu. -/
def answeredWith (bodies : List String) : Session (Wire × Scripted.User) :=
  { world := (.ofList (bodies.map fun body => .response { body }), {}) }

def kitHost : Remote := { baseUrl := "https://kits.example", transport := {} }

theorem conduct_status_iff_noKits :
    ((conduct (.of kitHost.serve Scripted.surface) 4
        (answeredWith ["\x7b\"kits\": []\x7d", "\x7b\"kits\": []\x7d"])).1 = .status 0 ∨
      (conduct (.of kitHost.serve Scripted.surface) 4
        (answeredWith ["\x7b\"kits\": []\x7d", "\x7b\"kits\": []\x7d"])).1 = .status 1) ↔
      ¬ StoppedByListing (conduct (.of kitHost.serve Scripted.surface) 4
        (answeredWith ["\x7b\"kits\": []\x7d", "\x7b\"kits\": []\x7d"])).2 :=
  conduct_status_iff kitHost Scripted.surface_obliging (Wire.willing_ofList (by simp)) {} 4 (by decide +kernel)

/-- A number in place of the listed kits, and a listed kit with a blank id, each stop the session. -/
theorem conduct_stopped_by_listing :
    Scripted.surface.Obliging ∧
      (answeredWith ["\x7b\"kits\": []\x7d", "\x7b\"kits\": 5\x7d"]).world.1.Willing ∧
      (conduct (.of kitHost.serve Scripted.surface) 4
        (answeredWith ["\x7b\"kits\": []\x7d", "\x7b\"kits\": 5\x7d"])).1 = .stopped (.fault .unusableValue) ∧
      (conduct (.of kitHost.serve Scripted.surface) 4
        (answeredWith ["\x7b\"kits\": []\x7d", "\x7b\"kits\": [\x7b\"id\": \" \"\x7d]\x7d"])).1 =
          .stopped (.fault .blankKitId) :=
  ⟨Scripted.surface_obliging, Wire.willing_ofList (by simp), by decide +kernel, by decide +kernel⟩

end Session

end KitConsole
