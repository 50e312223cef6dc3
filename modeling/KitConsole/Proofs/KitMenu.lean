import KitConsole.Offline
import KitConsole.Proofs.StepCourse
import KitConsole.Scripted

/-!
# The menu of listed kits

* `Displaces` — a kit whose name and whose name with the id are both taken, so that another kit loses its place.
* `values_offerAll_iff` — kits offered one after the other are all kept, in order, exactly if none displaces another.
* `idsIn`, `listedIds_list` — the ids that a listing is read as.
* `kit_menu_values_iff` — the same of the menu that the listing step shows.
-/

namespace KitConsole.Flow

open Dialogue

variable {ω : Type} {A : Answers}

/-! ## offering kits -/

/-- The name of the kit is taken, and its name with the id as well. -/
def Displaces (kits : Entries String) (kit : String × String) : Prop :=
  kit.2 ∈ kits.keys ∧ kit.2 ++ " (" ++ kit.1 ++ ")" ∈ kits.keys

theorem values_offer {kits : Entries String} {kit : String × String} (h : ¬ Displaces kits kit) :
    (offer kits kit.1 kit.2).values = kits.values ++ [kit.1] := by
  unfold offer
  by_cases hname : kit.2 ∈ kits.keys
  · have hlabel : kit.2 ++ " (" ++ kit.1 ++ ")" ∉ kits.keys := fun hlabel => h ⟨hname, hlabel⟩
    simp only [if_pos hname]
    exact Entries.values_put_of_not_mem hlabel _
  · simp only [if_neg hname]
    exact Entries.values_put_of_not_mem hname _

theorem length_offer_of_displaces {kits : Entries String} {kit : String × String} (h : Displaces kits kit) :
    (offer kits kit.1 kit.2).length = kits.length := by
  simp only [offer, if_pos h.1, Entries.length_put, if_pos h.2]

theorem length_offer_le (kits : Entries String) (id name : String) :
    (offer kits id name).length ≤ kits.length + 1 := by
  have hput : ∀ label, (Entries.put label id kits).length ≤ kits.length + 1 := by
    intro label
    rw [Entries.length_put]
    split <;> omega
  exact hput _

theorem length_offerAll_le (kits : Entries String) (named : List (String × String)) :
    (offerAll kits named).length ≤ kits.length + named.length := by
  induction named generalizing kits with
  | nil => exact Nat.le_refl _
  | cons kit named ih =>
    have h := ih (offer kits kit.1 kit.2)
    have hkit := length_offer_le kits kit.1 kit.2
    rw [List.length_cons]
    exact Nat.le_trans h (by omega)

/-- **Offered kits are all kept, in order, exactly if none of them displaces another.** -/
theorem values_offerAll_iff (kits : Entries String) (named : List (String × String)) :
    (offerAll kits named).values = kits.values ++ named.map (·.1) ↔
      ∀ before kit after, named = before ++ kit :: after → ¬ Displaces (offerAll kits before) kit := by
  induction named generalizing kits with
  | nil => simp [offerAll]
  | cons kit named ih =>
    have hcons : offerAll kits (kit :: named) = offerAll (offer kits kit.1 kit.2) named := rfl
    rw [hcons]
    by_cases hkit : Displaces kits kit
    · constructor
      · intro h
        -- one kit is lost here, and no later one brings it back
        have hlength := congrArg List.length h
        have hle := length_offerAll_le (offer kits kit.1 kit.2) named
        rw [length_offer_of_displaces hkit] at hle
        simp only [Entries.values, List.length_append, List.length_map, List.length_cons] at hlength
        omega
      · intro h
        exact absurd hkit (h [] kit named rfl)
    · have hvalues : kits.values ++ (kit :: named).map (·.1) =
          (offer kits kit.1 kit.2).values ++ named.map (·.1) := by
        rw [values_offer hkit, List.append_assoc]
        rfl
      rw [hvalues, ih]
      constructor
      · rintro h before kit' after heq
        cases before with
        | nil =>
          obtain ⟨rfl, -⟩ := List.cons.inj heq
          exact hkit
        | cons first before =>
          obtain ⟨rfl, htail⟩ := List.cons.inj heq
          exact h before kit' after htail
      · rintro h before kit' after rfl
        exact h (kit :: before) kit' after rfl

theorem offerAll_ne_nil {kits : Entries String} {named : List (String × String)} (h : kits ≠ [] ∨ named ≠ []) :
    offerAll kits named ≠ [] := by
  induction named generalizing kits with
  | nil => simpa [offerAll] using h
  | cons kit named ih => exact ih (.inl (Entries.put_ne_nil _ _ _))

theorem mem_offerAll {kits : Entries String} {named : List (String × String)} {entry : String × String}
    (h : entry ∈ offerAll kits named) : entry ∈ kits ∨
      ∃ kit ∈ named, entry.2 = kit.1 ∧ (entry.1 = kit.2 ∨ entry.1 = kit.2 ++ " (" ++ kit.1 ++ ")") := by
  induction named generalizing kits with
  | nil => exact .inl h
  | cons kit named ih =>
    rcases ih h with hentry | ⟨kit', hkit', hentry⟩
    · rcases Entries.mem_of_mem_put hentry with rfl | hentry
      · refine .inr ⟨kit, List.mem_cons_self, rfl, ?_⟩
        dsimp only
        split
        · exact .inr rfl
        · exact .inl rfl
      · exact .inl hentry
    · exact .inr ⟨kit', List.mem_cons_of_mem _ hkit', hentry⟩

theorem mem_values_offerAll {kits : Entries String} {named : List (String × String)} {id : String}
    (h : id ∈ (offerAll kits named).values) : id ∈ kits.values ∨ id ∈ named.map (·.1) := by
  obtain ⟨entry, hentry, rfl⟩ := List.mem_map.1 h
  rcases mem_offerAll hentry with hentry | ⟨kit, hkit, hid, -⟩
  · exact .inl (List.mem_map_of_mem hentry)
  · exact .inr (List.mem_map.2 ⟨kit, hkit, hid.symm⟩)

/-- A kit that is chosen is one of those that were offered. -/
theorem value_kitMenu_mem (named : List (String × String)) (i : Fin (kitMenu (offerAll [] named)).labels.length) :
    (kitMenu (offerAll [] named)).value i ∈ named.map (·.1) := by
  have hvalue : (kitMenu (offerAll [] named)).value i ∈ (offerAll [] named).values :=
    List.mem_map.2 ⟨_, List.get_mem _ _, rfl⟩
  rcases mem_values_offerAll hvalue with hnil | hid
  · simp [Entries.values] at hnil
  · exact hid

/-! ## the listing -/

/-- The texts of the ids in a listing that count as ones. -/
def idsIn (items : List Json) : List String :=
  (items.filter fun item => (item.field idField).truthy).map fun item => (item.field idField).text

theorem listedIds_list (items : List Json) : listedIds (.list items) = .ok (idsIn items) := by
  have hids : items.filterMap listedId? = idsIn items := by
    induction items with
    | nil => rfl
    | cons item items ih =>
      have hitem : listedId? item =
          if (item.field idField).truthy = true then some (item.field idField).text else none := by
        cases item <;> rfl
      by_cases htruthy : (item.field idField).truthy = true
      · rw [if_pos htruthy] at hitem
        rw [List.filterMap_cons_some hitem, ih]
        simp [idsIn, htruthy]
      · rw [if_neg htruthy] at hitem
        rw [List.filterMap_cons_none hitem, ih]
        simp [idsIn, htruthy]
  cases items with
  | nil => rfl
  | cons item items => exact congrArg _ hids

/-- A listing of objects with ids that are not empty is read as these ids. -/
theorem listedIds_of_field {value : Json} {items : List Json} {ids : List String} (hvalue : value = .list items)
    (hids : items.map (·.field idField) = ids.map .string) (hblank : "" ∉ ids) : listedIds value = .ok ids := by
  have hfields : idsIn items = ((items.map (·.field idField)).filter (·.truthy)).map (·.text) := by
    simp [idsIn, List.filter_map, Function.comp_def]
  have htruthy : (ids.map Json.string).filter (·.truthy) = ids.map .string := by
    refine List.filter_eq_self.2 fun id hid => ?_
    obtain ⟨text, htext, rfl⟩ := List.mem_map.1 hid
    have hne : text ≠ "" := fun h => hblank (h ▸ htext)
    simpa [Json.truthy] using hne
  rw [hvalue, listedIds_list, hfields, hids, htruthy]
  simp [Function.comp_def, Json.text]

/-- Wherever the call `c` stands in the events, its answer is `reply`. -/
def Answered (c : Call) (reply : Reply) (es : List Event) : Prop :=
  ∀ e ∈ es, e.effect = .call c → e = ⟨.call c, some reply⟩

instance (c : Call) (reply : Reply) (es : List Event) : Decidable (Answered c reply es) :=
  inferInstanceAs (Decidable (∀ e ∈ es, e.effect = .call c → e = ⟨.call c, some reply⟩))

theorem Answered.left {c : Call} {reply : Reply} {es es' : List Event} (h : Answered c reply (es ++ es')) :
    Answered c reply es :=
  fun e he => h e (List.mem_append_left _ he)

theorem Answered.right {c : Call} {reply : Reply} {es es' : List Event} (h : Answered c reply (es ++ es')) :
    Answered c reply es' :=
  fun e he => h e (List.mem_append_right _ he)

theorem exchange_of_answered {c : Call} {es : List Event} {x : Except Stop Reply} {reply : Reply}
    (h : Exchange A c failureNotice es x) (hreply : Answered c reply es) (hok : reply.ok = true) : x = .ok reply := by
  cases h with
  | fault _ => simpa using hreply _ List.mem_cons_self rfl
  | @answered reply' es x _ hr =>
    obtain rfl : reply' = reply := by simpa using hreply _ List.mem_cons_self rfl
    obtain ⟨-, rfl⟩ := reacts_of_ok hr hok
    rfl

theorem fetching_of_answered {ids : List String} {es : List Event} {x : Except Stop (Option (List Reply))}
    {info : String → Reply} (h : Fetching A ids es x)
    (hinfo : ∀ id ∈ ids, Answered (.getKit (.string id)) (info id) es ∧ (info id).ok = true) :
    x = .ok (some (ids.map info)) := by
  induction h with
  | nil => rfl
  | stopped hx =>
    obtain ⟨hreply, hok⟩ := hinfo _ List.mem_cons_self
    simpa using exchange_of_answered hx hreply hok
  | refused hx hbad =>
    obtain ⟨hreply, hok⟩ := hinfo _ List.mem_cons_self
    obtain rfl := Except.ok.inj (exchange_of_answered hx hreply hok)
    simp [hok] at hbad
  | @fetched id ids es₁ es₂ reply x hx _ _ ih =>
    obtain ⟨hreply, hok⟩ := hinfo id List.mem_cons_self
    obtain rfl := Except.ok.inj (exchange_of_answered hx hreply.left hok)
    have hrest : ∀ id ∈ ids, Answered (.getKit (.string id)) (info id) es₂ ∧ (info id).ok = true := by
      intro id hid
      obtain ⟨hreply, hok⟩ := hinfo id (List.mem_cons_of_mem _ hid)
      exact ⟨hreply.right, hok⟩
    rw [ih hrest]
    rfl

/-- The listed kits with the names that they are offered under. -/
def namedBy (info : String → Reply) (ids : List String) : List (String × String) :=
  ids.map fun id => (id, kitName id (info id))

theorem named_map (info : String → Reply) (ids : List String) : named ids (ids.map info) = namedBy info ids := by
  induction ids with
  | nil => rfl
  | cons id ids ih => exact congrArg ((id, kitName id (info id)) :: ·) ih

theorem values_kitMenu_iff (info : String → Reply) (ids : List String) :
    (offerAll [] (namedBy info ids)).values = ids ↔
      ∀ before kit after, namedBy info ids = before ++ kit :: after → ¬ Displaces (offerAll [] before) kit := by
  have hids : (namedBy info ids).map (·.1) = ids := by simp [namedBy, Function.comp_def]
  have h := values_offerAll_iff [] (namedBy info ids)
  rw [hids] at h
  exact h

theorem menu_of_offering {ids : List String} {es : List Event} {ops : List Operation} {r : Except Stop Json}
    {info : String → Reply} (h : Offering A ids es ops r) (hne : ids ≠ [])
    (hinfo : ∀ id ∈ ids, Answered (.getKit (.string id)) (info id) es ∧ (info id).ok = true) :
    ∃ es' answer, es = es' ++ [⟨.chooseKit (kitMenu (offerAll [] (namedBy info ids))), answer⟩] := by
  have infos_eq : ∀ {es' x} (rest : List Event), Fetching A ids es' x → es = es' ++ rest →
      x = .ok (some (ids.map info)) := by
    rintro es' x rest hf rfl
    refine fetching_of_answered hf fun id hid => ?_
    obtain ⟨hreply, hok⟩ := hinfo id hid
    exact ⟨hreply.left, hok⟩
  rw [← named_map]
  cases h with
  | unasked _ => exact absurd rfl hne
  | asked _ => exact absurd rfl hne
  | stopped _ hf => simpa using infos_eq [] hf (by simp)
  | refused _ hf => simpa using infos_eq [] hf (by simp)
  | unchosen _ hf _ =>
    obtain rfl := Option.some.inj (Except.ok.inj (infos_eq _ hf rfl))
    exact ⟨_, none, rfl⟩
  | chosen _ hf _ =>
    obtain rfl := Option.some.inj (Except.ok.inj (infos_eq _ hf rfl))
    exact ⟨_, some _, rfl⟩

/-- **The menu of a listing holds every listed kit, in order, exactly if no kit displaces another.** -/
theorem kit_menu_values_iff (c : Counterpart ω) (s : Session ω) {es : List Event} {listing : Reply}
    {items : List Json} {ids : List String} {info : String → Reply}
    (hes : (listAndChoose.play c s).2.events = s.events ++ es) (hlisting : Answered .listKits listing es)
    (hok : listing.ok = true) (hvalue : listing.value = .list items)
    (hids : items.map (·.field idField) = ids.map .string) (hne : ids ≠ []) (hblank : "" ∉ ids)
    (hinfo : ∀ id ∈ ids, Answered (.getKit (.string id)) (info id) es ∧ (info id).ok = true) :
    ∃ kits answer, es.getLast? = some ⟨.chooseKit (kitMenu kits), answer⟩ ∧
      (kits.values = ids ↔
        ∀ before kit after, namedBy info ids = before ++ kit :: after → ¬ Displaces (offerAll [] before) kit) := by
  obtain ⟨es', ops, h, -, -, -, -, hevents⟩ := play_course c.keeps_any listAndChoose s trivial
  obtain rfl := List.append_cancel_left (hes.symm.trans hevents)
  have hlisted := course_listAndChoose h
  generalize (listAndChoose.play c s).1 = r at hlisted
  cases hlisted with
  | stopped hx => simpa using exchange_of_answered hx hlisting hok
  | refused hx hbad =>
    obtain rfl := Except.ok.inj (exchange_of_answered hx hlisting hok)
    simp [hok] at hbad
  | unusable hx _ hfault =>
    obtain rfl := Except.ok.inj (exchange_of_answered hx hlisting hok)
    rw [listedIds_of_field hvalue hids hblank] at hfault
    simp at hfault
  | @listed es₁ es₂ _ reply _ _ hx _ hlist ho =>
    obtain rfl := Except.ok.inj (exchange_of_answered hx hlisting.left hok)
    obtain rfl := Except.ok.inj ((listedIds_of_field hvalue hids hblank).symm.trans hlist)
    have hoffer : ∀ id ∈ ids, Answered (.getKit (.string id)) (info id) es₂ ∧ (info id).ok = true := by
      intro id hid
      obtain ⟨hreply, hok⟩ := hinfo id hid
      exact ⟨hreply.right, hok⟩
    obtain ⟨es', answer, rfl⟩ := menu_of_offering ho hne hoffer
    exact ⟨_, answer, by simp, values_kitMenu_iff info ids⟩

/-! ## names that clash -/

def kitNamed (id name : String) (h : Text.isBlankText id = false) : Kit := { id, name, id_not_blank := h }

/-- Two kits of one name and a third one. -/
def sharedNames : List Kit :=
  [kitNamed "k1" "Shared" (by decide), kitNamed "k2" "Shared" (by decide), kitNamed "k3" "Other" (by decide)]

/-- Two kits of one name and a third one, named as the second is when it is told apart. -/
def clashingNames : List Kit :=
  [kitNamed "a" "X" (by decide), kitNamed "b" "X (c)" (by decide), kitNamed "c" "X" (by decide)]

/-- A user in front of an offline store. -/
def desk : Counterpart (Offline × Scripted.User) := .of Offline.serve Scripted.surface

def atStore (kits : List Kit) : Session (Offline × Scripted.User) := { world := (.ofKits kits {}, {}) }

def infoOf (kits : List Kit) (id : String) : Reply :=
  (kits.find? (·.id = id)).elim (.failure "kit" Offline.notFoundText) Offline.kitReply

theorem kit_menu_values_iff_sharedNames :
    ∃ kits answer, (listAndChoose.play desk (atStore sharedNames)).2.events.getLast? =
        some ⟨.chooseKit (kitMenu kits), answer⟩ ∧
      (kits.values = ["k1", "k2", "k3"] ↔
        ∀ before kit after, namedBy (infoOf sharedNames) ["k1", "k2", "k3"] = before ++ kit :: after →
          ¬ Displaces (offerAll [] before) kit) :=
  kit_menu_values_iff desk (atStore sharedNames) (List.nil_append _).symm
    (show Answered .listKits (Offline.ofKits sharedNames {}).list _ by decide +kernel) (by decide) rfl
    (by decide +kernel) (by decide) (by decide) (by decide +kernel)

/-- All three kits are listed and fetched, and the second one is missing from the menu. -/
theorem kit_menu_clashingNames :
    let es := (listAndChoose.play desk (atStore clashingNames)).2.events
    let listing := (Offline.ofKits clashingNames {}).list
    Answered .listKits listing es ∧ listing.ok = true ∧ listedIds listing.value = .ok ["a", "b", "c"] ∧
      (∀ id ∈ ["a", "b", "c"], Answered (.getKit (.string id)) (infoOf clashingNames id) es ∧
        (infoOf clashingNames id).ok = true) ∧
      es.getLast? = some ⟨.chooseKit (kitMenu [("X", "a"), ("X (c)", "c")]), some ⟨0, by decide⟩⟩ := by
  intro es listing
  exact ⟨by decide +kernel, by decide, rfl, by decide +kernel, by decide +kernel⟩

end KitConsole.Flow
