import KitConsole.Proofs.RemoteSession
import KitConsole.Proofs.Targets
import KitConsole.Proofs.Traffic

/-!
# What a save sends

* `enteredForm`, `Remote.saveUrl` — entered fields as a form, and where the kit `k` is saved.
* `Delivers remote k fields xs` — the attempts of a save that delivers `fields` at most once.
* `Deed.By.collects`, `Deed.By.saves` — entering fields leaves them to the next operation; a save sends what it was left.
* `run_saves` — in every session each save delivers the fields entered just before, and nothing else posts anything.
-/

namespace KitConsole

open Wire

/-- The form of entered fields: no id, no empty value, lists joined by commas and any other value as its text. -/
def enteredForm (fields : Fields) : Entries String :=
  fields.filterMap fun e => if e.1 = idField ∨ e.2.isNull = true then none else some (e.1, Remote.formValue e.2)

/-- The address at which the kit `k` is saved; a new one is posted to the collection. -/
def Remote.saveUrl (remote : Remote) : Option String → String
  | none => remote.root ++ "/kits"
  | some id => remote.root ++ "/kits/" ++ Text.strip id

/-- The attempts of a save: one and the same request, which carries the entered fields, and before the last attempt only
connections that were never made. -/
structure Delivers (remote : Remote) (k : Option String) (fields : Fields) (xs : List Attempt) : Prop where
  sent : xs ≠ []
  same : ∀ x ∈ xs, ∀ y ∈ xs, x.request = y.request
  method : ∀ x ∈ xs, x.request.method = .post
  url : ∀ x ∈ xs, x.request.url = remote.saveUrl k
  form : ∀ x ∈ xs, x.request.form = if enteredForm fields = [] then none else some (enteredForm fields)
  unmade : ∀ x ∈ xs.dropLast, ∃ f, x.outcome = .failure f ∧ f.cause = .connectTimeout

/-! ## the request of a save -/

theorem formOf_entered {fields : Fields} (h : fields.keys.Nodup) (id : Json) :
    Remote.formOf (Entries.erase idField (Entries.put idField id fields)) = enteredForm fields := by
  rw [Entries.erase_put h, Remote.formOf, enteredForm, List.filter_filter]
  clear h
  induction fields with
  | nil => rfl
  | cons e fields ih =>
    by_cases hid : e.1 = idField
    · simpa [hid] using ih
    · cases hnull : e.2.isNull with
      | true => simpa [hid, hnull] using ih
      | false => simpa [hid, hnull] using ih

namespace Remote

theorem requestFor_save (remote : Remote) (fields : Fields) {k : Option String}
    (hk : ∀ id, k = some id → (Call.getKit (.string id)).Addressed) :
    remote.requestFor (.saveKit fields (Session.idOf k)) =
      .ok (remote.transport.request .post (remote.saveUrl k) none (formOf fields)) := by
  cases k with
  | none => rfl
  | some id =>
    have hurl : remote.kitUrl (.string id) = .ok (remote.saveUrl (some id)) := by
      obtain ⟨s, hs⟩ : ∃ s, cleanId (.string id) = .ok s := hk id rfl
      have hstrip : Text.strip id ≠ "" := by
        intro hblank
        rw [cleanId_string, if_pos hblank] at hs
        simp at hs
      rw [kitUrl, cleanId_string, if_neg hstrip]
      rfl
    show (remote.kitUrl (.string id)).map _ = _
    rw [hurl]
    rfl

end Remote

theorem delivers_of_persists {remote : Remote} {k : Option String} {fields : Fields} {id : Json} {xs : List Attempt}
    (hfields : fields.keys.Nodup)
    (h : Persists (remote.transport.request .post (remote.saveUrl k) none
      (Remote.formOf (Entries.erase idField (Entries.put idField id fields)))) xs) : Delivers remote k fields xs where
  sent := h.sent
  same x hx y hy := (h.request x hx).trans (h.request y hy).symm
  method x hx := by rw [h.request x hx]; rfl
  url x hx := by rw [h.request x hx]; rfl
  form x hx := by
    rw [h.request x hx, formOf_entered hfields]
    simp [Transport.request]
  unmade := by
    intro x hx
    obtain ⟨f, hf, hsent⟩ := h.resent x hx
    exact ⟨f, hf, by simpa [Transport.request, Transport.isResent] using hsent⟩

theorem Flow.Asks.unposted {op : Operation} {call : Call} (h : Flow.Asks op call) (hop : op ≠ .save) :
    call.method ≠ .post := by
  cases h with
  | save => exact absurd rfl hop
  | _ => simp [Call.method]

namespace Session

open KitConsole.Flow

/-! ## the two operations -/

theorem Deed.By.collects {ω : Type} {c : Counterpart ω} {d : Deed ω} (h : d.By c) (hop : d.op = .collectFields)
    (hok : d.result = .ok ()) : ∃ fields, d.events = [⟨.collectFields, some fields⟩] ∧
      d.after.last = .object (Entries.put idField d.before.last fields) := by
  obtain ⟨x, hperf, hx, -⟩ := h.performs c.keeps_any trivial
  obtain ⟨ops, hcourse, -⟩ := hperf.course
  rw [hop] at hcourse
  rw [hok] at hx
  obtain ⟨-, ⟨f, -, -, rfl⟩ | ⟨fields, -, hes, rfl⟩⟩ := course_collectFields hcourse
  · simp [Except.map] at hx
  · exact ⟨fields, hes, hperf.last _ rfl⟩

variable {σ : Type} {remote : Remote} {u : Surface σ}

theorem Deed.By.saves {d : Deed (Wire × σ)} (h : d.By (.of remote.serve u)) (hop : d.op = .save) {fields : Fields}
    {id : Json} (hlast : d.before.last = .object (Entries.put idField id fields)) {r : Request}
    (hr : remote.requestFor (.saveKit (Entries.erase idField (Entries.put idField id fields)) id) = .ok r) :
    Persists r d.attempts := by
  obtain ⟨x, hperf, -⟩ := h.performs (Counterpart.keeps_any _) trivial
  obtain ⟨ops, hcourse, -⟩ := hperf.course
  rw [hop] at hcourse
  have hsave : (step .save d.before.last).Course Answers.any d.events ops x := hcourse
  rw [hlast] at hsave
  obtain ⟨-, y, hy, -⟩ := course_save (fieldsOf_put id fields) hsave
  rw [saveOf, field_put] at hy
  obtain ⟨a, es, hes, hnotices⟩ := events_of_call hy
  have hcarries := h.carries.1
  rw [hes] at hcarries
  generalize d.attempts = xs at hcarries ⊢
  cases hcarries with
  | cons hemits hrest =>
    -- the call comes first; what follows it are notices, and they send nothing
    have hnone := hrest.eq_nil fun e he => by
      obtain ⟨reply, n, -, hn⟩ := hnotices e he
      exact ⟨n, hn⟩
    rw [hnone, List.append_nil]
    simpa only [Emits, hr] using hemits

/-- Only a save posts. -/
theorem Deed.By.unposted {d : Deed (Wire × σ)} (h : d.By (.of remote.serve u)) (hop : d.op ≠ .save) :
    ∀ x ∈ d.attempts, x.request.method ≠ .post := by
  intro x hx
  obtain ⟨e, he, ys, hemits, hxy⟩ := h.carries.1.of_mem hx
  have hwithin := (h.does (Counterpart.keeps_any _) trivial).within e he
  obtain ⟨effect, a⟩ := e
  cases effect with
  | call call =>
    have hasks : Asks d.op call := hwithin
    cases hr : remote.requestFor call with
    | error f =>
      obtain rfl : ys = [] := by simpa only [Emits, hr] using hemits
      simp at hxy
    | ok r =>
      have hpersists : Persists r ys := by simpa only [Emits, hr] using hemits
      rw [hpersists.request x hxy, (Remote.of_requestFor hr).2]
      exact hasks.unposted hop
  | _ =>
    obtain rfl : ys = [] := hemits
    simp at hxy

/-- Fields are entered for a kit, or for a new one. -/
theorem At.collecting {τ : Stage} {plan : Plan} {last : Json} (h : At τ plan last)
    (hp : plan.head? = some .collectFields) : last = idOf τ.kit? := by
  cases h with
  | closing hplan => rcases hplan with rfl | rfl <;> simp at hp
  | creating => rfl
  | editing => rfl
  | _ => simp at hp

/-! ## sessions -/

/-- **Each save delivers the entered fields, and at most once**: where fields are entered and then saved, the save sends
one request that carries them to the address of the kit, again only after a connection that was never made; no other
operation posts anything. -/
theorem run_saves (remote : Remote) (u : Surface σ) (wire : Wire) (w : σ) (n : Nat) :
    ∃ early late, History (.of remote.serve u) { world := (wire, w) } early late
        (run (.of remote.serve u) n { world := (wire, w) }).1 (run (.of remote.serve u) n { world := (wire, w) }).2 ∧
      wire.Grows ((early ++ late).flatMap Deed.attempts)
        (run (.of remote.serve u) n { world := (wire, w) }).2.world.1 ∧
      (∀ d ∈ early ++ late, d.op ≠ .save → ∀ x ∈ d.attempts, x.request.method ≠ .post) ∧
      ∀ first d d' rest, early ++ late = first ++ d :: d' :: rest → d.op = .collectFields → d'.op = .save →
        ∃ fields k, d.events = [⟨.collectFields, some fields⟩] ∧ d.before.last = idOf k ∧
          (fields.keys.Nodup → Delivers remote k fields d'.attempts) := by
  obtain ⟨early, late, h⟩ := run_history (.of remote.serve u) n { world := (wire, w) }
  have hby := h.by_mem
  have hstaged := h.staged (keeps_addressedAnswers remote u) (L := Known) (by simp [Known, Stage.kit?])
    (fun _ _ hknown => hknown) (fun _ _ _ _ _ _ hσ hm => known_of_move addressedAnswers_addressed hσ hm) trivial
  refine ⟨early, late, h, h.grows, fun d hd hop => (hby d hd).unposted hop, ?_⟩
  intro first d d' rest hds hop hop'
  have hd : d ∈ early ++ late := by rw [hds]; simp
  have hd' : d' ∈ early ++ late := by rw [hds]; simp
  obtain ⟨hok, hbefore⟩ := h.adjacent hds (by simp [hop])
  obtain ⟨fields, hevents, hlast⟩ := (hby d hd).collects hop hok
  obtain ⟨τ, hτ, hknown⟩ := hstaged d hd
  have hid : d.before.last = idOf τ.kit? := by
    refine hτ.collecting ?_
    rw [(hby d hd).next, hop]
    rfl
  refine ⟨fields, τ.kit?, hevents, hid, fun hkeys => ?_⟩
  -- the save found the session as the entering of the fields had left it
  rw [hid, ← hbefore] at hlast
  exact delivers_of_persists hkeys ((hby d' hd').saves hop' hlast (remote.requestFor_save _ hknown))

/-- A new kit is posted again after a connection that was never made. -/
example : ((run (.of kitHost.serve Scripted.surface) 4
      { world := (.ofList [.response { body := "\x7b\"kits\": []\x7d" }, .failure ⟨.connectTimeout, ""⟩,
          .response { body := "\x7b\"kit\": 1\x7d" }],
        { choices := [.number 2],
          fields := [[("name", .string "A"), ("id", .string "x"), ("domains", .list [.string "a", .string "b"]),
            ("families", .null)]] }) }).2.world.1.sent.map fun r => (r.method, r.url, r.form)) =
    [(.get, "https://kits.example/kits", none),
      (.post, "https://kits.example/kits", some [("name", "A"), ("domains", "a,b")]),
      (.post, "https://kits.example/kits", some [("name", "A"), ("domains", "a,b")])] := by
  decide +kernel

end Session

end KitConsole
