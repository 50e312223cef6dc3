import KitConsole.Proofs.Course
import KitConsole.Proofs.RemoteCall
import KitConsole.Scripted

/-!
# What a remote service and a user answer

* `Wire.Willing` — every request meets a response or a failure; `Surface.Obliging` — the user answers whatever is asked.
* `Call.Addressed` — the call has an address to be sent to.
* `remoteAnswers` — calls without an address meet a fault and all others are replied to; of the questions only a menu
  without an entry can meet a fault.
* `keeps_remoteAnswers` — a remote service over a willing wire and an obliging user answer like this;
  `keeps_addressedAnswers` — over any wire, and with any user, only calls with an address are replied to.
-/

namespace KitConsole

/-! ## the wire -/

/-- No request is refused for its values. -/
def Wire.Willing (wire : Wire) : Prop := ∀ n message, wire.outcome n ≠ .refusal message

theorem Wire.willing_ofList {script : List Wire.Outcome} (h : ∀ o ∈ script, ∀ message, o ≠ .refusal message) :
    (Wire.ofList script).Willing := by
  intro n message
  show script.getD n _ ≠ _
  rw [List.getD_eq_getElem?_getD]
  rcases ho : script[n]? with _ | o
  · simp
  · exact h o (List.mem_of_getElem? ho) message

/-! ## the service -/

/-- Something is left of the id in an address; a new kit has none and needs none. -/
def Call.Addressed : Call → Prop
  | .listKits => True
  | .saveKit _ .null => True
  | .getKit id | .saveKit _ id | .deleteKit id => ∃ s, Remote.cleanId id = .ok s

namespace Remote

theorem cleanId_cases (id : Json) : (∃ s, cleanId id = .ok s) ∨ cleanId id = .error .blankKitId := by
  unfold cleanId
  generalize (if id.truthy then Text.strip id.text else "") = s
  by_cases hs : s = ""
  · exact .inr (if_pos hs)
  · exact .inl ⟨s, if_neg hs⟩

theorem cleanId_string (id : String) :
    cleanId (.string id) = if Text.strip id = "" then .error .blankKitId else .ok (Text.strip id) := by
  by_cases hid : id = ""
  · subst hid
    rfl
  · simp [cleanId, Json.truthy, Json.text, hid]

/-- A text that has no address as an id is blank. -/
theorem strip_eq_empty {id : String} (h : ¬ ∃ s, cleanId (.string id) = .ok s) : Text.strip id = "" := by
  by_cases hs : Text.strip id = ""
  · exact hs
  · exact absurd ⟨_, (cleanId_string id).trans (if_neg hs)⟩ h

/-- A call has a request exactly if it has an address. -/
theorem requestFor_cases (remote : Remote) (call : Call) :
    call.Addressed ∧ (∃ r, remote.requestFor call = .ok r) ∨
      ¬ call.Addressed ∧ remote.requestFor call = .error .blankKitId := by
  have one : ∀ id (request : String → Wire.Request),
      (∃ s, cleanId id = .ok s) ∧ (∃ r, (remote.kitUrl id).map request = .ok r) ∨
        ¬ (∃ s, cleanId id = .ok s) ∧ (remote.kitUrl id).map request = .error .blankKitId := by
    intro id request
    rcases cleanId_cases id with ⟨s, hid⟩ | hid
    · exact .inl ⟨⟨s, hid⟩, _, by rw [kitUrl, hid]; rfl⟩
    · exact .inr ⟨by simp [hid], by rw [kitUrl, hid]; rfl⟩
  cases call with
  | listKits => exact .inl ⟨trivial, _, rfl⟩
  | getKit id => exact one id _
  | saveKit fields id =>
    cases id with
    | null => exact .inl ⟨trivial, _, rfl⟩
    | _ => exact one _ _
  | deleteKit id => exact one id _

theorem exists_request (remote : Remote) {call : Call} (h : call.Addressed) : ∃ r, remote.requestFor call = .ok r := by
  rcases remote.requestFor_cases call with ⟨-, hr⟩ | ⟨hnot, -⟩
  · exact hr
  · exact absurd h hnot

/-- **A call is replied to exactly if it has an address**, and the wire stays willing. -/
theorem serve_serves (remote : Remote) (call : Call) {wire : Wire} (hwire : wire.Willing) :
    (remote.serve call wire).world.Willing ∧
      (call.Addressed ∧ (∃ reply, (remote.serve call wire).result = .ok reply) ∨
        ¬ call.Addressed ∧ (remote.serve call wire).result = .error .blankKitId) := by
  rcases remote.requestFor_cases call with ⟨hc, r, hr⟩ | ⟨hc, hr⟩
  · obtain ⟨m, -, hworld, hresult⟩ := serve_sends hr wire
    rw [hworld, hresult]
    refine ⟨hwire, .inl ⟨hc, ?_⟩⟩
    rcases ho : wire.outcome (wire.sent.length + m) with x | f | message
    · exact ⟨_, rfl⟩
    · exact ⟨_, rfl⟩
    · exact absurd ho (hwire _ _)
  · rw [serve_unsent hr]
    exact ⟨hwire, .inr ⟨hc, rfl⟩⟩

end Remote

/-! ## the user -/

/-- The user chooses from every menu that has an entry, and answers and hears everything else. -/
structure Surface.Obliging {σ : Type} (u : Surface σ) : Prop where
  choose : ∀ prompt labels s, labels ≠ [] → ∃ i, (u.choose prompt labels s).result = .ok i
  confirm : ∀ question s, ∃ b, (u.confirm question s).result = .ok b
  collectFields : ∀ s, ∃ fields, (u.collectFields s).result = .ok fields
  notify : ∀ n s, (u.notify n s).result = .ok ()

theorem Scripted.surface_obliging : Scripted.surface.Obliging where
  choose := by
    intro prompt labels user hlabels
    obtain ⟨i, hi⟩ : ∃ i, (List.finRange labels.length).head? = some i := by
      rcases hi : (List.finRange labels.length).head? with _ | i
      · have hlength := congrArg List.length (List.head?_eq_none_iff.1 hi)
        exact absurd (List.length_eq_zero_iff.1 (by simpa using hlength)) hlabels
      · exact ⟨i, rfl⟩
    show ∃ j, (Scripted.choose labels user).result = .ok j
    rcases hj : user.choices.head?.bind (·.position? labels) with _ | j
    · exact ⟨i, by simp only [Scripted.choose, hi, hj]⟩
    · exact ⟨j, by simp only [Scripted.choose, hi, hj]⟩
  confirm _ _ := ⟨_, rfl⟩
  collectFields _ := ⟨_, rfl⟩
  notify _ _ := rfl

/-! ## both -/

/-- Only calls with an address are replied to. -/
def Answers.Addressed (A : Answers) : Prop := ∀ c reply, A (.call c) (.ok reply) → c.Addressed

/-- What a remote service over any wire, and any user, may answer. -/
def addressedAnswers : Answers
  | .call c, .ok _ => c.Addressed
  | _, _ => True

theorem addressedAnswers_addressed : addressedAnswers.Addressed := fun _ _ h => h

theorem keeps_addressedAnswers (remote : Remote) {σ : Type} (u : Surface σ) :
    (Counterpart.of remote.serve u).Keeps (fun _ => True) addressedAnswers := by
  rintro e ⟨wire, s⟩ -
  refine ⟨?_, trivial⟩
  cases e with
  | call c =>
    rcases hr : (remote.serve c wire).result with f | reply
    · simp only [Counterpart.of, Turn.mapWorld, hr]
      trivial
    · simp only [Counterpart.of, Turn.mapWorld, hr]
      rcases remote.requestFor_cases c with ⟨hc, -⟩ | ⟨-, hnone⟩
      · exact hc
      · rw [Remote.serve_unsent hnone] at hr
        simp at hr
  | _ => trivial

theorem Surface.Obliging.labels_eq_nil {σ : Type} {u : Surface σ} (hu : u.Obliging) {prompt : String}
    {labels : List String} {s : σ} {f : Fault} (h : (u.choose prompt labels s).result = .error f) : labels = [] := by
  by_cases hlabels : labels = []
  · exact hlabels
  · obtain ⟨i, hi⟩ := hu.choose prompt labels s hlabels
    rw [hi] at h
    simp at h

/-- What a remote service over a willing wire, and an obliging user, may answer. -/
def remoteAnswers : Answers
  | .call c, .ok _ => c.Addressed
  | .call c, .error f => ¬ c.Addressed ∧ f = .blankKitId
  | .chooseOperation m, .error _ => m.labels = []
  | .chooseKit m, .error _ => m.labels = []
  | _, .error _ => False
  | _, .ok _ => True

theorem remoteAnswers_addressed : remoteAnswers.Addressed := fun _ _ h => h

theorem keeps_remoteAnswers (remote : Remote) {σ : Type} {u : Surface σ} (hu : u.Obliging) :
    (Counterpart.of remote.serve u).Keeps (fun w => w.1.Willing) remoteAnswers := by
  rintro e ⟨wire, s⟩ hwire
  cases e with
  | call c =>
    obtain ⟨hw, ⟨hc, reply, hr⟩ | ⟨hc, hr⟩⟩ := remote.serve_serves c hwire
    · exact ⟨by simp only [Counterpart.of, Turn.mapWorld, hr]; exact hc, hw⟩
    · exact ⟨by simp only [Counterpart.of, Turn.mapWorld, hr]; exact ⟨hc, rfl⟩, hw⟩
  | chooseOperation m =>
    rcases hi : (u.choose m.prompt m.labels s).result with f | i
    · exact ⟨by simp only [Counterpart.of, Turn.mapWorld, hi]; exact hu.labels_eq_nil hi, hwire⟩
    · exact ⟨by simp only [Counterpart.of, Turn.mapWorld, hi]; trivial, hwire⟩
  | chooseKit m =>
    rcases hi : (u.choose m.prompt m.labels s).result with f | i
    · exact ⟨by simp only [Counterpart.of, Turn.mapWorld, hi]; exact hu.labels_eq_nil hi, hwire⟩
    · exact ⟨by simp only [Counterpart.of, Turn.mapWorld, hi]; trivial, hwire⟩
  | confirm q =>
    obtain ⟨b, hb⟩ := hu.confirm q s
    exact ⟨by simp only [Counterpart.of, Turn.mapWorld, hb]; trivial, hwire⟩
  | collectFields =>
    obtain ⟨fields, hf⟩ := hu.collectFields s
    exact ⟨by simp only [Counterpart.of, Turn.mapWorld, hf]; trivial, hwire⟩
  | notify n => exact ⟨by simp only [Counterpart.of, Turn.mapWorld, hu.notify n s]; trivial, hwire⟩

end KitConsole
