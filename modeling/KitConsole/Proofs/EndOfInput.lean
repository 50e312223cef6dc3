import KitConsole.Proofs.Desk
import KitConsole.Proofs.OfflineAnswers
import KitConsole.Proofs.Termination

/-!
# Sessions on a stream that runs out

* `Session.Ends`, `EndsIff` — the plan is worked off within some number of operations; and exactly if a condition holds.
* `Offline.offered` — the kits that the user of an offline store can choose from.
* `Console.declines` — at some look at the kit the user says no to editing it, before the stream runs out.
* `Console.actionEnds`, `sessionEnds` — what the lines must say for the session to end.
* `conduct_ends_iff` — a session offline ends exactly if they say so; at the end of the stream every question is answered
  with yes, and the kit that was chosen is edited again and again.
* `sessionEnds_nil` — without any input it ends exactly if there is no kit to choose.
-/

namespace KitConsole

open Dialogue KitConsole.Flow Session

/-! ## plans that are worked off -/

namespace Session

variable {ω : Type} {c : Counterpart ω} {P Q : ω → Prop} {plan : Plan} {last v : Json} {op : Operation}
  {ops : List Operation} {s t : Session ω} {b : Prop}

/-- The plan is worked off, or stopped, within some number of operations. -/
def Ends (c : Counterpart ω) (s : Session ω) : Prop := ∃ n, (operate c n s).1 ≠ .unfinished

theorem Reaches.ends_iff {k : Nat} (h : Reaches c k s t) : Ends c s ↔ Ends c t := by
  constructor
  · rintro ⟨n, hn⟩
    refine ⟨n, ?_⟩
    rw [← h, operate_of_le hn (Nat.le_add_right n k)]
    exact hn
  · rintro ⟨n, hn⟩
    refine ⟨n + k, ?_⟩
    rwa [h]

theorem Reaches.trans {k m : Nat} {u : Session ω} (h : Reaches c k s t) (h' : Reaches c m t u) :
    Reaches c (m + k) s u := by
  intro n
  rw [← Nat.add_assoc, h, h']

/-- A plan that leads from each session of a kind to another one of the kind is never worked off. -/
theorem not_ends_of_progress {I : Session ω → Prop} (h : ∀ s, I s → ∃ k t, Reaches c (k + 1) s t ∧ I t) (hs : I s) :
    ¬ Ends c s := by
  rintro ⟨n, hn⟩
  induction n generalizing s with
  | zero => exact hn rfl
  | succ n ih =>
    obtain ⟨k, t, hreach, ht⟩ := h s hs
    refine ih ht ?_
    rw [← hreach, operate_of_le hn (by omega)]
    exact hn

/-- In a world with `P` the plan is worked off exactly if `b`. -/
def EndsIff (c : Counterpart ω) (P : ω → Prop) (plan : Plan) (last : Json) (b : Prop) : Prop :=
  ∀ s, Stands P plan last s → (Ends c s ↔ b)

theorem endsIff_of_yields (h : (Flow.step op last).Yields c P ops v Q) (hop : op ≠ .quit)
    (hrest : EndsIff c Q (ops ++ plan) v b) : EndsIff c P (op :: plan) last b := by
  intro s hs
  obtain ⟨t, hreach, ht⟩ := reaches_of_yields h hop hs
  exact hreach.ends_iff.trans (hrest t ht)

theorem endsIff_quit : EndsIff c P (.quit :: plan) last True := by
  intro s hs
  obtain ⟨t, hquit, -⟩ := operate_quit (c := c) hs 0
  exact ⟨fun _ => trivial, fun _ => ⟨1, by rw [hquit]; simp⟩⟩

end Session

/-! ## editing a kit -/

namespace Console

/-- The lines that are left once the fields of a kit are entered. -/
def pastFields (lines : List String) : List String :=
  lines.tail.tail.tail.drop (familyCount (answerOf lines.tail.tail))

theorem length_pastFields_le (lines : List String) : (pastFields lines).length ≤ lines.length := by
  simp only [pastFields, List.length_drop, List.length_tail]
  omega

/-- At some look at the kit the user says no to editing it; before each later look the fields are entered again. -/
def declines : List String → Bool
  | [] => false
  | line :: rest => readYesNo? (Text.strip line) = some false || declines (pastFields rest)
termination_by lines => lines.length
decreasing_by exact Nat.lt_succ_of_le (length_pastFields_le rest)

theorem snd_chosen {n m : Nat} (h : n = m + 1) {lines : List String} :
    (chosen n ⟨0, by omega⟩ lines).2 = (chosen (m + 1) 0 lines).2 := by
  subst h
  rfl

/-- What follows the choice of a kit comes to an end: the kit is deleted, or the user declines to edit it further. -/
def actionEnds (lines : List String) : Bool :=
  match chosen 3 0 lines with
  | (0, rest) => declines rest
  | (1, rest) => declines (pastFields rest)
  | _ => true

end Console

section Steps

variable {store : Offline} {lines : List String} (hauth : store.flags.authError = false)
include hauth

/-- The fields are entered and saved, under an id or as a new kit. -/
theorem reaches_of_editing {id : Json} (hid : ∃ key, Offline.keyOf id = .ok key) {rest plan : Plan}
    (hrest : Flow.afterFields id = .save :: rest) {s : Session (Offline × Console)}
    (hs : Stands (Desk store lines) (.collectFields :: plan) id s) :
    ∃ s' store', Reaches desk 2 s s' ∧ store'.flags = store.flags ∧
      Stands (Desk store' (Console.pastFields lines)) (rest ++ plan) id s' := by
  have hfields := Offline.listsDomains_fieldsFrom (Console.answerOf lines) (Console.answerOf lines.tail)
    (Console.answersOf (Console.familyCount (Console.answerOf lines.tail.tail)) lines.tail.tail.tail)
  obtain ⟨key, hkey⟩ := hid
  obtain ⟨t, hcollected, ht⟩ := reaches_of_yields (yields_collectFields (Console.reads_collectFields lines)) (by simp) hs
  rw [hrest] at ht
  obtain ⟨reply, store', hanswer, hkind, hflags⟩ := Offline.answer_saveKit hauth hfields hkey
  obtain ⟨u, hsaved, hu⟩ := reaches_of_yields (yields_save (idField_not_mem_keys _ _ _) hanswer hkind) (by simp) ht
  exact ⟨u, store', hcollected.trans hsaved, hflags, hu⟩

theorem endsIff_new : EndsIff desk (Desk store lines) [.collectFields, .quit] .null True := by
  intro s hs
  obtain ⟨t, store', hreach, -, ht⟩ := reaches_of_editing hauth ⟨none, rfl⟩ rfl hs
  exact hreach.ends_iff.trans (endsIff_quit t ht)

/-- A look at the kit without a no is followed by another one, with the lines after the fields left. -/
theorem reaches_of_look {id : String} (hno : Console.readYesNo? (Console.answerOf lines) ≠ some false)
    {s : Session (Offline × Console)} (hs : Stands (Desk store lines) [.afterView, .quit] (.string id) s) :
    ∃ s' store', Reaches desk 3 s s' ∧ store'.flags = store.flags ∧
      Stands (Desk store' (Console.pastFields lines.tail)) [.afterView, .quit] (.string id) s' := by
  have hyields := yields_afterView store lines (.string id)
  rw [if_neg hno] at hyields
  obtain ⟨t, hasked, ht⟩ := reaches_of_yields hyields (by simp) hs
  obtain ⟨u, store', hedited, hflags, hu⟩ := reaches_of_editing hauth ⟨some id, rfl⟩ rfl ht
  exact ⟨u, store', hasked.trans hedited, hflags, hu⟩

end Steps

/-- A look at the kit comes to an end exactly if the user declines to edit it, at this look or at a later one. -/
theorem endsIff_look {store : Offline} (hauth : store.flags.authError = false) (lines : List String) (id : String) :
    EndsIff desk (Desk store lines) [.afterView, .quit] (.string id) (Console.declines lines = true) := by
  fun_induction Console.declines lines generalizing store with
  | case1 =>
    intro s hs
    have hprogress : ∀ s, (∃ store : Offline, store.flags.authError = false ∧
          Stands (Desk store []) [.afterView, .quit] (.string id) s) →
        ∃ k t, Reaches desk (k + 1) s t ∧ ∃ store : Offline, store.flags.authError = false ∧
          Stands (Desk store []) [.afterView, .quit] (.string id) t := by
      rintro s ⟨store, hauth, hs⟩
      obtain ⟨t, store', hreach, hflags, ht⟩ := reaches_of_look hauth (by decide +kernel) hs
      exact ⟨2, t, hreach, store', by rw [hflags, hauth], ht⟩
    simpa using not_ends_of_progress hprogress ⟨store, hauth, hs⟩
  | case2 line rest ih =>
    by_cases hno : Console.readYesNo? (Text.strip line) = some false
    · have hyields := yields_afterView store (line :: rest) (.string id)
      rw [Console.answerOf, List.headD_cons, if_pos hno] at hyields
      simpa [hno] using endsIff_of_yields hyields (by simp) endsIff_quit
    · intro s hs
      obtain ⟨t, store', hreach, hflags, ht⟩ := reaches_of_look hauth (by exact hno) hs
      have hrest := ih (by rw [hflags, hauth]) t ht
      simpa [hno] using hreach.ends_iff.trans hrest

theorem endsIff_action {store : Offline} (hauth : store.flags.authError = false) (lines : List String) (id : String) :
    EndsIff desk (Desk store lines) [.chooseAction, .quit] (.string id) (Console.actionEnds lines = true) := by
  have hchoose := yields_chooseAction store lines (.string id)
  unfold Console.actionEnds
  generalize Console.chosen 3 0 lines = answer at hchoose ⊢
  obtain ⟨i, rest⟩ := answer
  match i with
  | ⟨0, _⟩ =>
    have hview : Yields desk (Desk store rest) (step .view (.string id)) [] (.string id) _ :=
      yields_view rfl (Offline.answer_getKit hauth id) (store.kind_fetched_ne_unauthorized id)
    exact endsIff_of_yields hchoose (by simp) (endsIff_of_yields hview (by simp) (endsIff_look (by exact hauth) rest id))
  | ⟨1, _⟩ =>
    refine endsIff_of_yields hchoose (by simp) fun s hs => ?_
    obtain ⟨t, store', hreach, hflags, ht⟩ := reaches_of_editing hauth ⟨some id, rfl⟩ rfl hs
    exact hreach.ends_iff.trans (endsIff_look (by rw [hflags, hauth]) _ id t ht)
  | ⟨2, _⟩ =>
    have hanswer : store.answer (.deleteKit (.string id)) = (.ok (store.removed id), _) :=
      Prod.ext (Offline.answer_deleteKit hauth id) rfl
    have hdelete : Yields desk (Desk store rest) (step .delete (.string id)) [] .null _ :=
      yields_delete rfl hanswer (store.kind_removed_ne_unauthorized id)
    have hchosen : Yields desk (Desk store lines) (step .chooseAction (.string id)) [.delete] (.string id)
      (Desk store rest) := hchoose
    simpa using endsIff_of_yields hchosen (by simp) (endsIff_of_yields hdelete (by simp) endsIff_quit)

/-! ## choosing a kit -/

namespace Offline

/-- The name that a kit is offered under. -/
def label (store : Offline) (id : String) : String :=
  match Entries.get? id store.kits with
  | some kit => if kit.name = "" then id else kit.name
  | none => id

/-- The ids that are listed. -/
def shelf (store : Offline) : List String :=
  if store.flags.malformed || store.flags.empty then [] else store.kits.keys.filter (· ≠ "")

/-- The kits that the user can choose from. -/
def offered (store : Offline) : Entries String :=
  if store.flags.notFoundError then [] else offerAll [] (store.shelf.map fun id => (id, store.label id))

theorem mem_keys_of_mem_shelf {store : Offline} {id : String} (h : id ∈ store.shelf) : id ∈ store.kits.keys := by
  unfold shelf at h
  split at h
  · simp at h
  · exact (List.mem_filter.1 h).1

theorem filterMap_listedId? (ids : List String) :
    (ids.map fun id => Json.object [("id", .string id), ("link", .string ("/api/v1/json/kits/" ++ id))]).filterMap
      listedId? = ids.filter (· ≠ "") := by
  induction ids with
  | nil => rfl
  | cons id ids ih =>
    by_cases hid : id = "" <;>
      simp_all [listedId?, idField, Json.field, Entries.get?, Json.ofOption, Json.truthy, Json.text]

theorem listedIds_listing {store : Offline} (h : store.flags.malformed = false) :
    listedIds store.list.value = .ok store.shelf := by
  have hlist : ∀ items : List Json, listedIds (.list items) = .ok (items.filterMap listedId?) := by
    intro items
    cases items <;> rfl
  have hvalue : store.list.value = store.listing := by
    simp [list, h, Reply.value, Reply.ok, Reply.success, Json.field, Entries.get?, Json.ofOption]
  rw [hvalue, listing, hlist, shelf, h, Bool.false_or]
  split
  · rfl
  · rw [filterMap_listedId?]

end Offline

section Listing

variable (store : Offline) (lines : List String)

theorem yields_chooseListed_nil : Yields desk (Desk store lines) (chooseListed [])
    [if (Console.readYesNo? (Console.answerOf lines)).getD true then .collectFields else .quit] .null
    (Desk store lines.tail) := by
  rw [chooseListed, if_pos List.isEmpty_nil]
  exact (yields_confirm _).seq (yields_schedule_pure _ _)

variable {store} (hauth : store.flags.authError = false)
include hauth

theorem yields_fetchKits (hfound : store.flags.notFoundError = false) {ids : List String}
    (hids : ∀ id ∈ ids, id ∈ store.kits.keys) (kits : Entries String) :
    ∃ store', store'.flags = store.flags ∧ Yields desk (Desk store lines) (fetchKits ids kits) []
      (some (offerAll kits (ids.map fun id => (id, store.label id)))) (Desk store' lines) := by
  induction ids generalizing store kits with
  | nil => exact ⟨store, rfl, yields_pure _⟩
  | cons id ids ih =>
    obtain ⟨hid, hrest⟩ := List.forall_mem_cons.1 hids
    obtain ⟨kit, hkit⟩ := Entries.exists_get? hid
    have hfetched : store.fetched id = Offline.kitReply kit := by
      simp [Offline.fetched, hkit, hfound]
    have hname : kitName id (Offline.kitReply kit) = store.label id := by
      simp [kitName, Offline.kitReply, Offline.label, hkit, Reply.value, Reply.ok, Reply.success, Kit.payload, Json.field,
        Entries.get?, Json.ofOption, Json.truthy, Json.text]
    obtain ⟨store', hflags, hyields⟩ := @ih (store.heard (.getKit (.string id))) hauth hfound hrest
      (offer kits id (store.label id))
    refine ⟨store', hflags, ?_⟩
    have hcall := yields_call (Offline.answer_getKit hauth id) lines
    refine hcall.seq ((yields_succeeded (store.kind_fetched_ne_unauthorized id)).seq ?_)
    rw [hfetched, hname]
    exact hyields

theorem yields_fetchKits_refused (hlost : store.flags.notFoundError = true) {ids : List String} (hids : ids ≠ [])
    (kits : Entries String) :
    ∃ store', Yields desk (Desk store lines) (fetchKits ids kits) [] none (Desk store' lines) := by
  cases ids with
  | nil => exact absurd rfl hids
  | cons id ids =>
    have hrefused : (store.fetched id).ok = false := by
      unfold Offline.fetched
      split <;> simp [hlost, Reply.failure, Reply.ok]
    have hcall := yields_call (Offline.answer_getKit hauth id) lines
    refine ⟨store.heard (.getKit (.string id)),
      hcall.seq ((yields_succeeded (store.kind_fetched_ne_unauthorized id)).seq ?_)⟩
    rw [hrefused]
    exact yields_pure none

theorem yields_chooseListed_refused (hlost : store.flags.notFoundError = true) {ids : List String} (hids : ids ≠ []) :
    ∃ store', Yields desk (Desk store lines) (chooseListed ids) [.quit] .null (Desk store' lines) := by
  obtain ⟨store', hfetch⟩ := yields_fetchKits_refused lines hauth hlost hids []
  refine ⟨store', ?_⟩
  rw [chooseListed, if_neg (by simpa using hids)]
  exact hfetch.seq (yields_schedule_pure [.quit] Json.null)

theorem yields_chooseListed (hfound : store.flags.notFoundError = false) {ids : List String} (hids : ids ≠ [])
    (hkeys : ∀ id ∈ ids, id ∈ store.kits.keys) {kit : String × String} {kits : Entries String}
    (hkits : offerAll [] (ids.map fun id => (id, store.label id)) = kit :: kits) :
    ∃ id store', store'.flags = store.flags ∧ Yields desk (Desk store lines) (chooseListed ids) [.chooseAction]
      (.string id) (Desk store' (Console.chosen (kits.length + 1) 0 lines).2) := by
  obtain ⟨store', hflags, hfetch⟩ := yields_fetchKits lines hauth hfound hkeys []
  have hlength : (kitMenu (kit :: kits)).labels.length = kits.length + 1 := by
    simp [Menu.labels, kitMenu, Entries.keys]
  have hlabels : 0 < (kitMenu (kit :: kits)).labels.length := by
    omega
  have hchoose : Yields desk (Desk store' lines) (perform (.chooseKit (kitMenu (kit :: kits)))) [] _ (Desk store' _) :=
    yields_chooseKit hlabels
  rw [hkits] at hfetch
  rw [Console.snd_chosen hlength] at hchoose
  refine ⟨(kitMenu (kit :: kits)).value (Console.chosen _ ⟨0, by omega⟩ lines).1, store', hflags, ?_⟩
  rw [chooseListed, if_neg (by simpa using hids)]
  exact hfetch.seq (hchoose.seq (yields_schedule_pure [.chooseAction] _))

/-- A listing that can be used is followed by the choice of a kit in it. -/
theorem yields_listAndChoose (h : store.flags.malformed = false) (last : Json) {v : Json} {ops : List Operation}
    {Q : Offline × Console → Prop}
    (hchoose : Yields desk (Desk store.listed lines) (chooseListed store.shelf) ops v Q) :
    Yields desk (Desk store lines) (step .listAndChoose last) ops v Q := by
  have hok : store.list.ok = true := by
    simp [Offline.list, h, Reply.success, Reply.ok]
  have hcall := yields_call (Offline.answer_listKits hauth) lines
  refine hcall.seq ((yields_succeeded store.kind_list_ne_unauthorized).seq ?_)
  rw [hok, if_pos rfl, Offline.listedIds_listing h]
  exact (yields_pure store.shelf).seq hchoose

theorem yields_listAndChoose_malformed (h : store.flags.malformed = true) (last : Json) :
    Yields desk (Desk store lines) (step .listAndChoose last) [.quit] .null (Desk store.listed lines) := by
  have hok : store.list.ok = false := by
    simp [Offline.list, h, Reply.malformed, Reply.ok]
  have hcall := yields_call (Offline.answer_listKits hauth) lines
  refine hcall.seq ((yields_succeeded store.kind_list_ne_unauthorized).seq ?_)
  rw [hok]
  exact yields_schedule_pure [.quit] Json.null

end Listing

/-- Listing the kits comes to an end: there is none to choose from, or what follows the choice does. -/
def listingEnds (store : Offline) (lines : List String) : Bool :=
  match store.offered with
  | [] => true
  | _ :: kits => Console.actionEnds (Console.chosen (kits.length + 1) 0 lines).2

/-- Where no kit is listed, the session ends whether a new one is made or not. -/
theorem endsIff_listing_nil {store : Offline} (hauth : store.flags.authError = false)
    (hlisted : store.flags.malformed = false) (hshelf : store.shelf = []) (lines : List String) {last : Json} :
    EndsIff desk (Desk store lines) [.listAndChoose, .quit] last True := by
  have hchoose := yields_chooseListed_nil store.listed lines
  rw [← hshelf] at hchoose
  have hyields := yields_listAndChoose lines hauth hlisted last hchoose
  cases hcreate : (Console.readYesNo? (Console.answerOf lines)).getD true with
  | true =>
    rw [hcreate, if_pos rfl] at hyields
    exact endsIff_of_yields hyields (by simp) (endsIff_new (by exact hauth))
  | false =>
    rw [hcreate, if_neg (by simp)] at hyields
    exact endsIff_of_yields hyields (by simp) endsIff_quit

/-- Where kits are on offer, the session ends as what follows the choice does. -/
theorem endsIff_listing_cons {store : Offline} (hauth : store.flags.authError = false)
    (hlisted : store.flags.malformed = false) (hfound : store.flags.notFoundError = false) (hshelf : store.shelf ≠ [])
    (lines : List String) {last : Json} :
    EndsIff desk (Desk store lines) [.listAndChoose, .quit] last (listingEnds store lines = true) := by
  have hne : offerAll [] (store.shelf.map fun id => (id, store.label id)) ≠ [] :=
    offerAll_ne_nil (.inr (by simpa using hshelf))
  obtain ⟨kit, kits, hkits⟩ := List.exists_cons_of_ne_nil hne
  have hends : listingEnds store lines = Console.actionEnds (Console.chosen (kits.length + 1) 0 lines).2 := by
    simp [listingEnds, Offline.offered, hfound, hkits]
  have hmem : ∀ id ∈ store.shelf, id ∈ store.kits.keys := fun id hid => Offline.mem_keys_of_mem_shelf hid
  have hheard : store.listed.flags.authError = false := hauth
  obtain ⟨id, store', hflags, hyields⟩ := yields_chooseListed lines hheard hfound hshelf hmem hkits
  rw [hends]
  exact endsIff_of_yields (yields_listAndChoose lines hauth hlisted last hyields) (by simp)
    (endsIff_action (by rw [hflags]; exact hauth) _ id)

theorem endsIff_listing {store : Offline} (hauth : store.flags.authError = false) (lines : List String) {last : Json} :
    EndsIff desk (Desk store lines) [.listAndChoose, .quit] last (listingEnds store lines = true) := by
  by_cases hmalformed : store.flags.malformed
  · have hnone : listingEnds store lines = true := by
      simp [listingEnds, Offline.offered, Offline.shelf, hmalformed, offerAll]
    have hyields := yields_listAndChoose_malformed lines hauth hmalformed last
    simpa [hnone] using endsIff_of_yields hyields (by simp) endsIff_quit
  rw [Bool.not_eq_true] at hmalformed
  by_cases hshelf : store.shelf = []
  · have hnone : listingEnds store lines = true := by
      simp [listingEnds, Offline.offered, hshelf, offerAll]
    simpa [hnone] using endsIff_listing_nil hauth hmalformed hshelf lines
  by_cases hlost : store.flags.notFoundError
  · have hnone : listingEnds store lines = true := by
      simp [listingEnds, Offline.offered, hlost]
    have hheard : store.listed.flags.authError = false := hauth
    obtain ⟨store', hrefused⟩ := yields_chooseListed_refused lines hheard hlost hshelf
    have hyields := yields_listAndChoose lines hauth hmalformed last hrefused
    simpa [hnone] using endsIff_of_yields hyields (by simp) endsIff_quit
  · rw [Bool.not_eq_true] at hlost
    exact endsIff_listing_cons hauth hmalformed hlost hshelf lines

/-! ## sessions -/

/-- The lines bring a session at the store to its end. -/
def sessionEnds (store : Offline) (lines : List String) : Bool :=
  store.flags.authError ||
    match Console.chosen 3 0 lines with
    | (0, rest) => listingEnds store rest
    | _ => true

theorem endsIff_menu {store : Offline} (hauth : store.flags.authError = false) (lines : List String) {last : Json} :
    EndsIff desk (Desk store lines) [.mainMenu, .quit] last (sessionEnds store lines = true) := by
  have hchoose := yields_mainMenu store lines last
  unfold sessionEnds
  rw [hauth, Bool.false_or]
  generalize Console.chosen 3 0 lines = answer at hchoose ⊢
  obtain ⟨i, rest⟩ := answer
  match i with
  | ⟨0, _⟩ => exact endsIff_of_yields hchoose (by simp) (endsIff_listing hauth rest)
  | ⟨1, _⟩ =>
    have hchosen : Yields desk (Desk store lines) (step .mainMenu last) [.collectFields] .null (Desk store rest) := hchoose
    simpa using endsIff_of_yields hchosen (by simp) (endsIff_new hauth)
  | ⟨2, _⟩ =>
    have hchosen : Yields desk (Desk store lines) (step .mainMenu last) [.quit] .null (Desk store rest) := hchoose
    simpa using endsIff_of_yields hchosen (by simp) endsIff_quit

namespace Session

variable {ω : Type} {c : Counterpart ω} {s t : Session ω}

theorem conduct_eq_unfinished_iff {n : Nat} : (conduct c n s).1 = .unfinished ↔ (run c n s).1 = .unfinished := by
  unfold conduct
  rcases run c n s with ⟨e, t⟩
  rcases e with _ | (message | f) | _
  · simp
  · simp only [reportRejection]
    split <;> simp
  · simp
  · simp

/-- A session that is welcomed ends exactly if its plan is worked off. -/
theorem conduct_ends_of_welcome {u : Session ω} (hopening : authenticateFirst c s.plan.length s = (.ok (), t))
    (hwelcome : notify c .welcome t = (.ok (), u)) : (∃ n, (conduct c n s).1 ≠ .unfinished) ↔ Ends c u := by
  refine exists_congr fun n => not_congr (conduct_eq_unfinished_iff.trans ?_)
  unfold run
  simp only [hopening, proceed, hwelcome]
  rcases operate c n u with ⟨e, v⟩
  cases e with
  | finished => simpa using farewell_ne_unfinished c v
  | _ => exact Iff.rfl

end Session

variable {store : Offline}

/-- A store that rejects every call ends the session at once. -/
theorem conduct_ends_of_authError (hauth : store.flags.authError = true) (lines : List String) (output : String) :
    ∃ n, (conduct desk n { world := (store, { lines, output }) }).1 ≠ .unfinished := by
  have hanswer : store.answer .listKits =
      (.ok (.unauthorized "kits" Offline.unauthorizedText), store.heard .listKits) := by
    unfold Offline.answer Offline.respond
    rw [if_pos hauth]
    rfl
  let s : Session (Offline × Console) := { plan := [.mainMenu, .quit], world := (store, { lines, output }) }
  obtain ⟨t, hcall, -⟩ := yields_call hanswer lines
    { s with operations := [.authenticate], log := [dispatchRecord .authenticate s.plan] } ⟨rfl, rfl, rfl⟩
  have hdispatch : dispatch desk .authenticate s = (.error (.rejected Offline.unauthorizedText), t) := by
    have hplay : (step .authenticate s.last).play desk
        { s with operations := [.authenticate], log := [dispatchRecord .authenticate s.plan] } =
          (.error (.rejected Offline.unauthorizedText), t) := by
      show (Flow.call .listKits >>= _).play desk _ = _
      rw [play_bind, hcall]
      rfl
    unfold dispatch
    simp only [List.nil_append, s] at hplay ⊢
    rw [hplay]
  refine ⟨0, fun hcut => ?_⟩
  have hrun : run desk 0 { world := (store, { lines, output }) } = (.stopped (.rejected Offline.unauthorizedText), t) := by
    unfold run
    simp only [Plan.startup, List.length_cons, authenticateFirst]
    rw [show dispatch desk .authenticate _ = _ from hdispatch]
  rw [conduct_eq_unfinished_iff, hrun] at hcut
  simp at hcut

/-- A session whose credential is accepted ends exactly if its lines bring it to its end. -/
theorem conduct_ends_of_accepted (hauth : store.flags.authError = false) (lines : List String) (output : String) :
    (∃ n, (conduct desk n { world := (store, { lines, output }) }).1 ≠ .unfinished) ↔
      sessionEnds store lines = true := by
  have hstart : Stands (Desk store lines) [.authenticate, .mainMenu, .quit] .null
      ({ world := (store, { lines, output }) } : Session (Offline × Console)) := ⟨rfl, rfl, rfl, rfl, rfl⟩
  obtain ⟨s, hopening, hs⟩ := authenticateFirst_of_yields (yields_authenticate hauth) (by simp) hstart 2
  obtain ⟨t, hwelcome, ht⟩ := notify_of_yields (yields_notify .welcome) hs
  have hlisted : store.listed.flags.authError = false := hauth
  have hmenu := endsIff_menu hlisted lines t ht
  exact (conduct_ends_of_welcome hopening hwelcome).trans hmenu

/-- **A session offline ends exactly if its lines bring it to its end.** -/
theorem conduct_ends_iff (store : Offline) (lines : List String) (output : String) :
    (∃ n, (conduct desk n { world := (store, { lines, output }) }).1 ≠ .unfinished) ↔
      sessionEnds store lines = true := by
  cases hauth : store.flags.authError with
  | true =>
    have hends : sessionEnds store lines = true := by
      simp [sessionEnds, hauth]
    exact iff_of_true (conduct_ends_of_authError hauth lines output) hends
  | false => exact conduct_ends_of_accepted hauth lines output

/-- Without any input, the question whether to edit the kit is answered with yes for ever. -/
theorem Console.actionEnds_nil : Console.actionEnds [] = false := by
  show Console.declines [] = false
  unfold Console.declines
  rfl

/-- Without any input, a session whose credential is accepted ends exactly if there is no kit to choose. -/
theorem sessionEnds_nil {store : Offline} (hauth : store.flags.authError = false) :
    sessionEnds store [] = store.offered.isEmpty := by
  have hmenu : sessionEnds store [] = (store.flags.authError || listingEnds store []) := rfl
  rw [hmenu, hauth, Bool.false_or]
  unfold listingEnds
  cases store.offered with
  | nil => rfl
  | cons kit kits => exact Console.actionEnds_nil

/-- A session about the example kit without any input never ends. -/
theorem conduct_exhausted :
    ¬ ∃ n, (conduct desk n { world := (Offline.withExampleKit {}, { lines := [] }) }).1 ≠ .unfinished := by
  have hauth : (Offline.withExampleKit {}).flags.authError = false := rfl
  have hoffered : (Offline.withExampleKit {}).offered = [("Example", "abc1def")] := by decide +kernel
  rw [conduct_ends_of_accepted hauth, sessionEnds_nil hauth, hoffered]
  simp

end KitConsole
