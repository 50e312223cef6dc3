import KitConsole.Proofs.KitMenu

/-!
# The listing step does all or nothing

* `asked`, `questions` — the calls among events with their replies, and the questions to the user.
* `FetchesUpTo ids fetches` — the kits are fetched in their order, up to the first one that cannot be had.
* `AllOrNothing` — what the step does with a listing: only once all kits are fetched the user chooses among them, and
  whatever fails before leaves nothing but `quit` in front of the plan.
* `Tried` — what a call of the listing step leads to, told from its reply.
* `Complete`, `Abandoned` — all calls were successes; or one was not, and what it met decides what is left.
* `listAndChoose_allOrNothing` — the listing step does all or nothing, whatever it is answered.
-/

namespace KitConsole

/-! ## what a record tells -/

/-- The call and its reply, where the event is a call. -/
def Event.asked? : Event → Option (Call × Option Reply)
  | ⟨.call c, reply⟩ => some (c, reply)
  | _ => none

theorem Json.exists_of_truthy_field {k : String} {value : Json} (h : (value.field k).truthy = true) :
    ∃ entries v, value = .object entries ∧ Entries.get? k entries = some v ∧ value.field k = v := by
  cases value with
  | object entries =>
    cases hget : Entries.get? k entries with
    | none => simp [Json.field, hget, Json.ofOption, Json.truthy] at h
    | some v => exact ⟨entries, v, rfl, hget, by rw [Json.field, hget, Json.ofOption]⟩
  | _ => simp [Json.field, Json.truthy] at h

def Effect.isQuestion : Effect → Bool
  | .chooseOperation _ | .chooseKit _ | .confirm _ | .collectFields => true
  | _ => false

/-- A reply that is to be reported to the user. -/
def Reply.Failed (reply : Reply) : Prop := reply.kind = .error ∨ reply.kind = .malformed

namespace Flow

variable {A : Answers} {es es' : List Event} {ops : List Operation}

def asked (es : List Event) : List (Call × Option Reply) := es.filterMap Event.asked?

def questions (es : List Event) : List Event := es.filter (·.effect.isQuestion)

@[simp] theorem asked_append : asked (es ++ es') = asked es ++ asked es' := List.filterMap_append

@[simp] theorem questions_append : questions (es ++ es') = questions es ++ questions es' := List.filter_append _ _

/-- Something in the events met a fault. -/
def Interrupted (es : List Event) : Prop := ∃ e ∈ es, e.answer = none

/-! ## what the step is to do -/

/-- The kits are fetched in their order, up to the first one that is not replied to with a success. -/
inductive FetchesUpTo : List String → List (Call × Option Reply) → Prop
  | all : FetchesUpTo [] []
  | next {id : String} {ids : List String} {info : Reply} {fetches : List (Call × Option Reply)} : info.ok = true →
      FetchesUpTo ids fetches → FetchesUpTo (id :: ids) ((.getKit (.string id), some info) :: fetches)
  | last {id : String} {ids : List String} {answer : Option Reply} : (∀ info, answer = some info → info.ok = false) →
      FetchesUpTo (id :: ids) [(.getKit (.string id), answer)]

/-- The answer is a success that carries the list. -/
def Lists (answer : Option Reply) (items : List Json) : Prop :=
  ∃ reply, answer = some reply ∧ reply.ok = true ∧ reply.value = .list items

/-- The name that was fetched for a kit: that in the reply if there is one, else the id. -/
inductive NamedBy (id : String) (info : Reply) : String → Prop
  | name {entries : Entries Json} {name : Json} : info.value = .object entries →
      Entries.get? "name" entries = some name → name.truthy = true → NamedBy id info name.text
  | id : (∀ entries name, info.value = .object entries → Entries.get? "name" entries = some name →
      name.truthy = false) → NamedBy id info id

/-- The label and the kit of an entry of the menu: a listed kit under the name that was fetched for it, or under this
name and its id. -/
def Offers (items : List Json) (fetches : List (Call × Option Reply)) (entry : String × String) : Prop :=
  entry.2 ∈ idsIn items ∧ ∃ info name, (.getKit (.string entry.2), some info) ∈ fetches ∧ NamedBy entry.2 info name ∧
    (entry.1 = name ∨ entry.1 = name ++ " (" ++ entry.2 ++ ")")

/-- What the step does when the listing is answered with `answer` and the `fetches` follow. -/
structure AllOrNothing (answer : Option Reply) (fetches : List (Call × Option Reply)) (es : List Event)
    (ops : List Operation) (r : Except Stop Json) : Prop where
  asked : asked es = (.listKits, answer) :: fetches
  fetched : ∀ items, Lists answer items → FetchesUpTo (idsIn items) fetches
  unlisted : (∀ reply, answer = some reply → reply.ok = false) → fetches = []
  failed : ∀ call reply, (call, some reply) ∈ Flow.asked es → reply.Failed →
    questions es = [] ∧ (¬ Interrupted es → ops = [.quit] ∧ r = .ok .null)
  rejected : ∀ call reply, (call, some reply) ∈ Flow.asked es → reply.kind = .unauthorized →
    questions es = [] ∧ ops = [] ∧ r = .error (.rejected (rejectionText reply))
  empty : ∀ items, Lists answer items → idsIn items = [] → fetches = [] ∧ ∃ create,
    questions es = [⟨.confirm createQuestion, create⟩] ∧
      ∀ yes, create = some yes → ops = [if yes then .collectFields else .quit] ∧ r = .ok .null
  offered : ∀ items, Lists answer items → idsIn items ≠ [] →
    (∀ fetch ∈ fetches, ∃ info, fetch.2 = some info ∧ info.ok = true) → ∃ kits choice,
      questions es = [⟨.chooseKit (kitMenu kits), choice⟩] ∧ (∀ entry ∈ kits, Offers items fetches entry) ∧
        ∀ i, choice = some i → ops = [.chooseAction] ∧ r = .ok (.string ((kitMenu kits).value i))
  interrupted : Interrupted es → ops = [] ∧ ∃ f, r = .error (.fault f)

/-! ## single calls -/

/-- A call, what its reply leads to, and how it ends. -/
inductive Tried (c : Call) : List Event → Except Stop Reply → Prop
  | unanswered {f : Fault} : Tried c [⟨.call c, none⟩] (.error (.fault f))
  | rejected {reply : Reply} : reply.kind = .unauthorized →
      Tried c [⟨.call c, some reply⟩] (.error (.rejected (rejectionText reply)))
  | done {reply : Reply} : reply.kind = .ok → Tried c [⟨.call c, some reply⟩] (.ok reply)
  | reported {reply : Reply} {n : Notice} : reply.Failed →
      Tried c [⟨.call c, some reply⟩, ⟨.notify n, some ()⟩] (.ok reply)
  | unheard {reply : Reply} {n : Notice} {f : Fault} : reply.Failed →
      Tried c [⟨.call c, some reply⟩, ⟨.notify n, none⟩] (.error (.fault f))

theorem tried_of_exchange {c : Call} {x : Except Stop Reply} (h : Exchange A c failureNotice es x) : Tried c es x := by
  cases h with
  | fault _ => exact .unanswered
  | @answered reply es x _ hr =>
    cases hk : reply.kind with
    | ok =>
      obtain ⟨rfl, rfl⟩ := reacts_of_ok hr (by simp [Reply.ok, hk])
      exact .done hk
    | unauthorized =>
      cases hr with
      | rejected _ => exact .rejected hk
      | told hne _ => exact absurd hk hne
    | error =>
      cases hr with
      | rejected h => simp [hk] at h
      | told _ ht =>
        have hn : reaction failureNotice reply = some (.showError reply.errorText) := by
          simp [reaction, failureNotice, Reply.ok, hk]
        rw [hn] at ht
        cases ht with
        | heard _ => exact .reported (.inl hk)
        | fault _ => exact .unheard (.inl hk)
    | malformed =>
      cases hr with
      | rejected h => simp [hk] at h
      | told _ ht =>
        have hn : reaction failureNotice reply = some .unexpectedResponse := by simp [reaction, hk]
        rw [hn] at ht
        cases ht with
        | heard _ => exact .reported (.inr hk)
        | fault _ => exact .unheard (.inr hk)

/-! ## what stops the step -/

/-- The calls were answered with successes, and nothing else happened. -/
def Complete (es : List Event) : Prop :=
  ∀ e ∈ es, ∃ c reply, e = ⟨.call c, some reply⟩ ∧ reply.ok = true

theorem complete_nil : Complete [] := fun _ he => absurd he List.not_mem_nil

theorem Complete.cons {c : Call} {reply : Reply} (hok : reply.ok = true) (h : Complete es) :
    Complete (⟨.call c, some reply⟩ :: es) := by
  intro e he
  rcases List.mem_cons.1 he with rfl | he
  · exact ⟨c, reply, rfl, hok⟩
  · exact h e he

theorem Complete.succeeded (h : Complete es) : ∀ fetch ∈ asked es, ∃ info, fetch.2 = some info ∧ info.ok = true := by
  intro fetch hf
  obtain ⟨e, he, hfetch⟩ := List.mem_filterMap.1 hf
  obtain ⟨c, reply, rfl, hok⟩ := h e he
  obtain rfl := Option.some.inj hfetch
  exact ⟨reply, rfl, hok⟩

theorem questions_of_complete (h : Complete es) : questions es = [] := by
  refine List.filter_eq_nil_iff.2 fun e he => ?_
  obtain ⟨c, reply, rfl, -⟩ := h e he
  simp [Effect.isQuestion]

theorem Complete.not_interrupted (h : Complete es) : ¬ Interrupted es := by
  rintro ⟨e, he, hnone⟩
  obtain ⟨c, reply, rfl, -⟩ := h e he
  simp at hnone

/-- The user was asked nothing, some call was not answered with a success, and what it met decides what is left. -/
structure Abandoned (es : List Event) (ops : List Operation) (r : Except Stop Json) : Prop where
  unasked : questions es = []
  refused : ∃ fetch ∈ asked es, ∀ info, fetch.2 = some info → info.ok = false
  failed : ∀ call reply, (call, some reply) ∈ asked es → reply.Failed → ¬ Interrupted es → ops = [.quit] ∧ r = .ok .null
  rejected : ∀ call reply, (call, some reply) ∈ asked es → reply.kind = .unauthorized →
    ops = [] ∧ r = .error (.rejected (rejectionText reply))
  interrupted : Interrupted es → ops = [] ∧ ∃ f, r = .error (.fault f)

/-- What a call met that was not answered with a success leaves the step abandoned: a call is the only one among its
events, so its answer decides everything. -/
theorem abandoned_of_only {c : Call} {answer : Option Reply} {r : Except Stop Json} (hasked : asked es = [(c, answer)])
    (hquestions : questions es = []) (hbad : ∀ reply, answer = some reply → reply.ok = false)
    (hfailed : ∀ reply, answer = some reply → reply.Failed → ¬ Interrupted es → ops = [.quit] ∧ r = .ok .null)
    (hrejected : ∀ reply, answer = some reply → reply.kind = .unauthorized →
      ops = [] ∧ r = .error (.rejected (rejectionText reply)))
    (hinterrupted : Interrupted es → ops = [] ∧ ∃ f, r = .error (.fault f)) : Abandoned es ops r := by
  have hanswer : ∀ call reply, (call, some reply) ∈ asked es → answer = some reply := by
    intro call reply h
    rw [hasked, List.mem_singleton] at h
    exact (Prod.mk.inj h).2.symm
  exact
    { unasked := hquestions
      refused := ⟨(c, answer), by simp [hasked], hbad⟩
      failed := fun call reply h => hfailed reply (hanswer call reply h)
      rejected := fun call reply h => hrejected reply (hanswer call reply h)
      interrupted := hinterrupted }

theorem Tried.stops {c : Call} {x : Except Stop Reply} {y : Stop} (h : Tried c es x) (hx : x = .error y) :
    Abandoned es [] (.error y) := by
  cases h with
  | unanswered =>
    obtain rfl := Except.error.inj hx
    exact abandoned_of_only rfl rfl (by simp) (by simp) (by simp) fun _ => ⟨rfl, _, rfl⟩
  | @rejected reply hk =>
    obtain rfl := Except.error.inj hx
    refine abandoned_of_only rfl rfl ?_ ?_ ?_ ?_
    · rintro _ ⟨⟩
      simp [Reply.ok, hk]
    · rintro _ ⟨⟩ hfailed
      simp [Reply.Failed, hk] at hfailed
    · rintro _ ⟨⟩ -
      exact ⟨rfl, rfl⟩
    · simp [Interrupted]
  | done _ => simp at hx
  | reported _ => simp at hx
  | @unheard reply n f hk =>
    obtain rfl := Except.error.inj hx
    refine abandoned_of_only rfl rfl ?_ ?_ ?_ fun _ => ⟨rfl, _, rfl⟩
    · rintro _ ⟨⟩
      rcases hk with hk | hk <;> simp [Reply.ok, hk]
    · rintro _ ⟨⟩ - hheard
      simp [Interrupted] at hheard
    · rintro _ ⟨⟩ hrejected
      simp [Reply.Failed, hrejected] at hk

theorem Tried.quits {c : Call} {x : Except Stop Reply} {reply : Reply} (h : Tried c es x) (hx : x = .ok reply)
    (hbad : reply.ok = false) : Abandoned es [.quit] (.ok .null) := by
  cases h with
  | unanswered => simp at hx
  | rejected _ => simp at hx
  | done hk =>
    obtain rfl := Except.ok.inj hx
    simp [Reply.ok, hk] at hbad
  | reported hk =>
    obtain rfl := Except.ok.inj hx
    refine abandoned_of_only rfl rfl ?_ (fun _ _ _ _ => ⟨rfl, rfl⟩) ?_ (by simp [Interrupted])
    · rintro _ ⟨⟩
      exact hbad
    · rintro _ ⟨⟩ hrejected
      simp [Reply.Failed, hrejected] at hk
  | unheard _ => simp at hx

theorem Tried.succeeds {c : Call} {x : Except Stop Reply} {reply : Reply} (h : Tried c es x) (hx : x = .ok reply)
    (hok : reply.ok = true) : es = [⟨.call c, some reply⟩] := by
  cases h with
  | unanswered => simp at hx
  | rejected _ => simp at hx
  | done _ =>
    obtain rfl := Except.ok.inj hx
    rfl
  | reported hk =>
    obtain rfl := Except.ok.inj hx
    rcases hk with hk | hk <;> simp [Reply.ok, hk] at hok
  | unheard _ => simp at hx

/-- A success before does not matter to what stops the step. -/
theorem Abandoned.cons {c : Call} {reply : Reply} {r : Except Stop Json} (hok : reply.ok = true)
    (h : Abandoned es ops r) : Abandoned (⟨.call c, some reply⟩ :: es) ops r := by
  have hkind : reply.kind = .ok := by simpa [Reply.ok] using hok
  have hasked : asked (⟨.call c, some reply⟩ :: es) = (c, some reply) :: asked es := rfl
  have hlater : ∀ call reply', (call, some reply') ∈ asked (⟨.call c, some reply⟩ :: es) → reply'.kind ≠ .ok →
      (call, some reply') ∈ asked es := by
    intro call reply' hmem hne
    rw [hasked, List.mem_cons] at hmem
    refine hmem.resolve_left fun heq => hne ?_
    rw [Option.some.inj (Prod.mk.inj heq).2, hkind]
  have hinterrupted : Interrupted (⟨.call c, some reply⟩ :: es) ↔ Interrupted es := by simp [Interrupted]
  refine ⟨h.unasked, ?_, fun call reply' hmem hfailed hheard => ?_, fun call reply' hmem hrejected => ?_, fun hfault => ?_⟩
  · obtain ⟨fetch, hmem, hbad⟩ := h.refused
    exact ⟨fetch, List.mem_cons_of_mem _ hmem, hbad⟩
  · have hne : reply'.kind ≠ .ok := by rcases hfailed with hk | hk <;> simp [hk]
    exact h.failed call reply' (hlater call reply' hmem hne) hfailed (hheard ∘ hinterrupted.2)
  · exact h.rejected call reply' (hlater call reply' hmem (by simp [hrejected])) hrejected
  · exact h.interrupted (hinterrupted.1 hfault)

/-! ## the fetches -/

/-- How the fetches go: all kits were had, or the step is abandoned. -/
inductive Fetched (es : List Event) : Except Stop (Option (List Reply)) → Prop
  | complete {infos : List Reply} : Complete es → Fetched es (.ok (some infos))
  | quits : Abandoned es [.quit] (.ok .null) → Fetched es (.ok none)
  | stops {y : Stop} : Abandoned es [] (.error y) → Fetched es (.error y)

theorem fetched_of_fetching {ids : List String} {x : Except Stop (Option (List Reply))} (h : Fetching A ids es x) :
    Fetched es x := by
  induction h with
  | nil => exact .complete complete_nil
  | stopped hx => exact .stops ((tried_of_exchange hx).stops rfl)
  | refused hx hbad => exact .quits ((tried_of_exchange hx).quits rfl hbad)
  | fetched hx hok _ ih =>
    obtain rfl := (tried_of_exchange hx).succeeds rfl hok
    cases ih with
    | complete h => exact .complete (h.cons hok)
    | quits h => exact .quits (h.cons hok)
    | stops h => exact .stops (h.cons hok)

theorem asked_of_tried {c : Call} {x : Except Stop Reply} (h : Tried c es x) : ∃ answer, asked es = [(c, answer)] := by
  cases h with
  | unanswered => exact ⟨_, rfl⟩
  | rejected _ => exact ⟨_, rfl⟩
  | done _ => exact ⟨_, rfl⟩
  | reported _ => exact ⟨_, rfl⟩
  | unheard _ => exact ⟨_, rfl⟩

theorem fetchesUpTo_of_abandoned {id : String} {ids : List String} {x : Except Stop Reply} {r : Except Stop Json}
    (h : Tried (.getKit (.string id)) es x) (habandoned : Abandoned es ops r) : FetchesUpTo (id :: ids) (asked es) := by
  obtain ⟨answer, hasked⟩ := asked_of_tried h
  obtain ⟨fetch, hmem, hbad⟩ := habandoned.refused
  rw [hasked, List.mem_singleton] at hmem
  subst hmem
  rw [hasked]
  exact .last hbad

theorem fetchesUpTo_of_fetching {ids : List String} {x : Except Stop (Option (List Reply))} (h : Fetching A ids es x) :
    FetchesUpTo ids (asked es) := by
  induction h with
  | nil => exact .all
  | stopped hx =>
    have ht := tried_of_exchange hx
    exact fetchesUpTo_of_abandoned ht (ht.stops rfl)
  | refused hx hbad =>
    have ht := tried_of_exchange hx
    exact fetchesUpTo_of_abandoned ht (ht.quits rfl hbad)
  | fetched hx hok _ ih =>
    obtain rfl := (tried_of_exchange hx).succeeds rfl hok
    exact .next hok ih

/-- The kits that are offered are the ones listed, under the names that were fetched for them. -/
theorem mem_named_of_fetching {ids : List String} {x : Except Stop (Option (List Reply))} {infos : List Reply}
    {kit : String × String} (h : Fetching A ids es x) (hx : x = .ok (some infos)) (hkit : kit ∈ named ids infos) :
    kit.1 ∈ ids ∧ ∃ info, (.getKit (.string kit.1), some info) ∈ asked es ∧ kit.2 = kitName kit.1 info := by
  induction h generalizing infos with
  | nil => simp [named] at hkit
  | stopped _ => simp at hx
  | refused _ _ => simp at hx
  | @fetched id ids es₁ es₂ info x hex hok _ ih =>
    obtain rfl := (tried_of_exchange hex).succeeds rfl hok
    rcases x with y | _ | later
    · simp [Except.map] at hx
    · simp [Except.map] at hx
    · obtain rfl := Option.some.inj (Except.ok.inj hx)
      rcases List.mem_cons.1 hkit with rfl | hkit
      · exact ⟨List.mem_cons_self, info, List.mem_cons_self, rfl⟩
      · obtain ⟨hid, info', hmem, hname⟩ := ih rfl hkit
        exact ⟨List.mem_cons_of_mem _ hid, info', List.mem_cons_of_mem _ hmem, hname⟩

/-! ## the menu -/

theorem namedBy_kitName (id : String) (info : Reply) : NamedBy id info (kitName id info) := by
  by_cases htruthy : (info.value.field "name").truthy = true
  · obtain ⟨entries, name, hvalue, hget, hfield⟩ := Json.exists_of_truthy_field htruthy
    rw [kitName, if_pos htruthy, hfield]
    exact .name hvalue hget (hfield ▸ htruthy)
  · rw [kitName, if_neg htruthy]
    refine .id fun entries name hvalue hget => ?_
    have hfield : info.value.field "name" = name := by rw [hvalue, Json.field, hget, Json.ofOption]
    simpa [hfield] using htruthy

/-- Every entry of the menu offers a kit of the listing. -/
theorem offers_of_fetching {items : List Json} {infos : List Reply} {entry : String × String}
    (h : Fetching A (idsIn items) es (.ok (some infos))) (hentry : entry ∈ offerAll [] (named (idsIn items) infos)) :
    Offers items (asked es) entry := by
  obtain ⟨kit, hkit, hid, hlabel⟩ := (mem_offerAll hentry).resolve_left List.not_mem_nil
  obtain ⟨hlisted, info, hfetched, hname⟩ := mem_named_of_fetching h rfl hkit
  rw [hname] at hlabel
  rw [Offers, hid]
  exact ⟨hlisted, info, _, hfetched, namedBy_kitName kit.1 info, hlabel⟩

/-! ## the whole step -/

/-- An abandoned step has fetched kits up to the one that it was abandoned at. -/
theorem Abandoned.allOrNothing {answer : Option Reply} {fetches : List (Call × Option Reply)} {r : Except Stop Json}
    (h : Abandoned es ops r) (hasked : asked es = (.listKits, answer) :: fetches)
    (hfetched : ∀ items, Lists answer items → FetchesUpTo (idsIn items) fetches)
    (hunlisted : (∀ reply, answer = some reply → reply.ok = false) → fetches = []) :
    AllOrNothing answer fetches es ops r := by
  -- a listing that was had and kits that were had leave nothing to abandon the step at
  have hsucceeded : ∀ items, Lists answer items →
      ¬ ∀ fetch ∈ fetches, ∃ info, fetch.2 = some info ∧ info.ok = true := by
    rintro items ⟨reply, hreply, hok, -⟩ hall
    obtain ⟨fetch, hmem, hbad⟩ := h.refused
    rw [hasked, List.mem_cons] at hmem
    rcases hmem with rfl | hmem
    · simp [hbad reply hreply] at hok
    · obtain ⟨info, hinfo, hok⟩ := hall fetch hmem
      simp [hbad info hinfo] at hok
  exact
    { asked := hasked
      fetched := hfetched
      unlisted := hunlisted
      failed := fun call reply hmem hfailed => ⟨h.unasked, h.failed call reply hmem hfailed⟩
      rejected := fun call reply hmem hk => ⟨h.unasked, h.rejected call reply hmem hk⟩
      empty := by
        intro items hlists hids
        have hnone := hfetched items hlists
        rw [hids] at hnone
        cases hnone
        exact absurd (by simp) (hsucceeded items hlists)
      offered := fun items hlists _ hall => absurd hall (hsucceeded items hlists)
      interrupted := h.interrupted }

theorem asked_question {e : Event} (h : e.effect.isQuestion = true) : asked [e] = [] := by
  obtain ⟨effect, answer⟩ := e
  cases effect with
  | call c => simp [Effect.isQuestion] at h
  | _ => rfl

/-- A step whose calls were all answered with successes, and that ends with a question. -/
theorem Complete.allOrNothing {reply : Reply} {question : Event} {r : Except Stop Json} (h : Complete es)
    (hok : reply.ok = true) (hquestion : question.effect.isQuestion = true)
    (hfetched : ∀ items, reply.value = .list items → FetchesUpTo (idsIn items) (asked es))
    (hempty : ∀ items, reply.value = .list items → idsIn items = [] → ∃ create,
      question = ⟨.confirm createQuestion, create⟩ ∧
        ∀ yes, create = some yes → ops = [if yes then .collectFields else .quit] ∧ r = .ok .null)
    (hoffered : ∀ items, reply.value = .list items → idsIn items ≠ [] → ∃ kits choice,
      question = ⟨.chooseKit (kitMenu kits), choice⟩ ∧ (∀ entry ∈ kits, Offers items (asked es) entry) ∧
        ∀ i, choice = some i → ops = [.chooseAction] ∧ r = .ok (.string ((kitMenu kits).value i)))
    (hfault : question.answer = none → ops = [] ∧ ∃ f, r = .error (.fault f)) :
    AllOrNothing (some reply) (asked es) (⟨.call .listKits, some reply⟩ :: es ++ [question]) ops r := by
  have hcalls : Complete (⟨.call .listKits, some reply⟩ :: es) := h.cons hok
  have hasked : asked (⟨.call .listKits, some reply⟩ :: es ++ [question]) =
      asked (⟨.call .listKits, some reply⟩ :: es) := by
    rw [asked_append, asked_question hquestion, List.append_nil]
  have hquestions : questions (⟨.call .listKits, some reply⟩ :: es ++ [question]) = [question] := by
    rw [questions_append, questions_of_complete hcalls, List.nil_append]
    simp [questions, hquestion]
  have hkind : ∀ call reply', (call, some reply') ∈ asked (⟨.call .listKits, some reply⟩ :: es ++ [question]) →
      reply'.kind = .ok := by
    intro call reply' hmem
    rw [hasked] at hmem
    obtain ⟨info, hinfo, hok⟩ := hcalls.succeeded _ hmem
    obtain rfl := Option.some.inj hinfo
    simpa [Reply.ok] using hok
  refine
    { asked := hasked
      fetched := ?_
      unlisted := fun hbad => by simp [hbad reply rfl] at hok
      failed := fun call reply' hmem hfailed => by simp [Reply.Failed, hkind call reply' hmem] at hfailed
      rejected := fun call reply' hmem hk => by simp [hkind call reply' hmem] at hk
      empty := ?_
      offered := ?_
      interrupted := ?_ }
  · rintro items ⟨_, ⟨⟩, -, hvalue⟩
    exact hfetched items hvalue
  · rintro items ⟨_, ⟨⟩, -, hvalue⟩ hids
    have hnone := hfetched items hvalue
    rw [hids] at hnone
    obtain ⟨create, rfl, hcreate⟩ := hempty items hvalue hids
    refine ⟨?_, create, hquestions, hcreate⟩
    generalize asked es = fetches at hnone
    cases hnone
    rfl
  · rintro items ⟨_, ⟨⟩, -, hvalue⟩ hids -
    obtain ⟨kits, choice, rfl, hkits, hchoice⟩ := hoffered items hvalue hids
    exact ⟨kits, choice, hquestions, hkits, hchoice⟩
  · rintro ⟨e, he, hnone⟩
    rcases List.mem_append.1 he with he | he
    · exact absurd ⟨e, he, hnone⟩ hcalls.not_interrupted
    · obtain rfl := List.mem_singleton.1 he
      exact hfault hnone

theorem allOrNothing_of_offering {ids : List String} {reply : Reply} {r : Except Stop Json} (h : Offering A ids es ops r)
    (hok : reply.ok = true) (hids : ∀ items, reply.value = .list items → idsIn items = ids) :
    AllOrNothing (some reply) (asked es) (⟨.call .listKits, some reply⟩ :: es) ops r := by
  have hfetched : ∀ {es x}, Fetching A ids es x → ∀ items, reply.value = .list items →
      FetchesUpTo (idsIn items) (asked es) := by
    intro es x hf items hvalue
    rw [hids items hvalue]
    exact fetchesUpTo_of_fetching hf
  have habandoned : ∀ {es ops x r}, Fetching A ids es x → Abandoned es ops r →
      AllOrNothing (some reply) (asked es) (⟨.call .listKits, some reply⟩ :: es) ops r := by
    intro es ops x r hf h
    refine (h.cons hok).allOrNothing rfl ?_ fun hbad => ?_
    · rintro items ⟨_, ⟨⟩, -, hvalue⟩
      exact hfetched hf items hvalue
    · simp [hbad reply rfl] at hok
  cases h with
  | unasked _ =>
    exact Complete.allOrNothing complete_nil hok rfl (hfetched .nil) (fun _ _ _ => ⟨none, rfl, by simp⟩)
      (fun items hvalue hne => absurd (hids items hvalue) hne) fun _ => ⟨rfl, _, rfl⟩
  | @asked create _ =>
    refine Complete.allOrNothing complete_nil hok rfl (hfetched .nil) (fun _ _ _ => ⟨some create, rfl, ?_⟩)
      (fun items hvalue hne => absurd (hids items hvalue) hne) (by simp)
    rintro _ ⟨⟩
    exact ⟨rfl, rfl⟩
  | stopped _ hf =>
    cases fetched_of_fetching hf with
    | stops h => exact habandoned hf h
  | refused _ hf =>
    cases fetched_of_fetching hf with
    | quits h => exact habandoned hf h
  | unchosen hne hf _ =>
    cases fetched_of_fetching hf with
    | complete h =>
      rw [asked_append, asked_question rfl, List.append_nil]
      refine h.allOrNothing hok rfl (hfetched hf) (fun items hvalue hnil => ?_) (fun items hvalue _ => ?_)
        fun _ => ⟨rfl, _, rfl⟩
      · exact absurd ((hids items hvalue).symm.trans hnil) hne
      · obtain rfl := hids items hvalue
        exact ⟨_, none, rfl, fun entry => offers_of_fetching hf, by simp⟩
  | @chosen _ _ _ i hne hf _ =>
    cases fetched_of_fetching hf with
    | complete h =>
      rw [asked_append, asked_question rfl, List.append_nil]
      refine h.allOrNothing hok rfl (hfetched hf) (fun items hvalue hnil => ?_) (fun items hvalue _ => ?_) (by simp)
      · exact absurd ((hids items hvalue).symm.trans hnil) hne
      · obtain rfl := hids items hvalue
        refine ⟨_, some i, rfl, fun entry => offers_of_fetching hf, ?_⟩
        rintro _ ⟨⟩
        exact ⟨rfl, rfl⟩

/-- A listing that cannot be had, or that is none, leaves nothing to fetch. -/
theorem allOrNothing_of_unlisted {x : Except Stop Reply} {r : Except Stop Json} (h : Tried .listKits es x)
    (habandoned : Abandoned es ops r) : ∃ answer, AllOrNothing answer [] es ops r := by
  obtain ⟨answer, hasked⟩ := asked_of_tried h
  obtain ⟨fetch, hmem, hbad⟩ := habandoned.refused
  rw [hasked, List.mem_singleton] at hmem
  subst hmem
  refine ⟨answer, habandoned.allOrNothing hasked ?_ fun _ => rfl⟩
  rintro items ⟨reply, hreply, hok, -⟩
  simp [hbad reply hreply] at hok

theorem allOrNothing_of_unusable {reply : Reply} {f : Fault} (hok : reply.ok = true)
    (h : listedIds reply.value = .error f) :
    AllOrNothing (some reply) [] [⟨.call .listKits, some reply⟩] [] (.error (.fault f)) := by
  have hlists : ∀ items, ¬ Lists (some reply) items := by
    rintro items ⟨_, ⟨⟩, -, hvalue⟩
    simp [hvalue, listedIds_list] at h
  have hkind : ∀ call reply', (call, some reply') ∈ asked [⟨.call .listKits, some reply⟩] → reply'.kind = .ok := by
    intro call reply' hmem
    obtain rfl := Option.some.inj (Prod.mk.inj (List.mem_singleton.1 hmem)).2
    simpa [Reply.ok] using hok
  exact
    { asked := rfl
      fetched := fun items hitems => absurd hitems (hlists items)
      unlisted := fun _ => rfl
      failed := fun call reply' hmem hfailed => by simp [Reply.Failed, hkind call reply' hmem] at hfailed
      rejected := fun call reply' hmem hk => by simp [hkind call reply' hmem] at hk
      empty := fun items hitems => absurd hitems (hlists items)
      offered := fun items hitems => absurd hitems (hlists items)
      interrupted := by simp [Interrupted] }

theorem allOrNothing_of_listing {r : Except Stop Json} (h : Listing A es ops r) :
    ∃ answer fetches, AllOrNothing answer fetches es ops r := by
  cases h with
  | stopped hx =>
    have ht := tried_of_exchange hx
    obtain ⟨answer, h⟩ := allOrNothing_of_unlisted ht (ht.stops rfl)
    exact ⟨answer, [], h⟩
  | refused hx hbad =>
    have ht := tried_of_exchange hx
    obtain ⟨answer, h⟩ := allOrNothing_of_unlisted ht (ht.quits rfl hbad)
    exact ⟨answer, [], h⟩
  | @unusable _ reply f hx hok hlist =>
    obtain rfl := (tried_of_exchange hx).succeeds rfl hok
    exact ⟨some reply, [], allOrNothing_of_unusable hok hlist⟩
  | @listed _ es₂ _ reply ids _ hx hok hlist ho =>
    obtain rfl := (tried_of_exchange hx).succeeds rfl hok
    refine ⟨_, _, allOrNothing_of_offering ho hok fun items hvalue => ?_⟩
    rw [hvalue, listedIds_list] at hlist
    exact Except.ok.inj hlist

/-- **The listing step does all or nothing**, whatever it is answered. -/
theorem listAndChoose_allOrNothing {ω : Type} (c : Counterpart ω) (s : Session ω) : ∃ es ops answer fetches,
    (listAndChoose.play c s).2.events = s.events ++ es ∧ (listAndChoose.play c s).2.plan = ops ++ s.plan ∧
      AllOrNothing answer fetches es ops (listAndChoose.play c s).1 := by
  obtain ⟨es, ops, h, -, hplan, -, -, hevents⟩ :=
    Dialogue.play_course c.keeps_any listAndChoose s trivial
  obtain ⟨answer, fetches, hall⟩ := allOrNothing_of_listing (course_listAndChoose h)
  exact ⟨es, ops, answer, fetches, hevents, hplan, hall⟩

end Flow
end KitConsole
