import KitConsole.ServiceError

/-!
# The texts of an error body

* `Detail.flat` — the texts of a body that are not blank, in order: those of its items one after the other in a list
  (`flat_list`), those under its message fields in an object (`flat_object`).
* `Detail.Holds` — a string stands in a body, below lists and message fields only; `mem_flat_iff` says that the texts
  are what is left of such strings.
* `firstString_head_flat` — the detail of a body is the first of its texts.
-/

namespace KitConsole.Detail

mutual

/-- The texts of a value, each without the blanks around it. -/
def flat : Json → List String
  | .string s => if Text.strip s = "" then [] else [Text.strip s]
  | .list items => flatItems items
  | .object entries =>
    let texts := flatEntries entries
    ["errors", "error", "message", "detail"].flatMap fun k => (Entries.get? k texts).getD []
  | _ => []

def flatItems : List Json → List String
  | [] => []
  | v :: vs => flat v ++ flatItems vs

def flatEntries : List (String × Json) → List (String × List String)
  | [] => []
  | (k, v) :: es => (k, flat v) :: flatEntries es

end

/-! ## lists and objects -/

theorem flatItems_eq (items : List Json) : flatItems items = items.flatMap flat := by
  induction items with
  | nil => rfl
  | cons v items ih => rw [flatItems, ih, List.flatMap_cons]

theorem flatEntries_eq (entries : List (String × Json)) :
    flatEntries entries = entries.map fun e => (e.1, flat e.2) := by
  induction entries with
  | nil => rfl
  | cons e entries ih => rw [flatEntries, ih, List.map_cons]

theorem flat_list (items : List Json) : flat (.list items) = items.flatMap flat := by rw [flat, flatItems_eq]

/-- The texts of an object are those of the values under the message fields that it has. -/
theorem flat_object (entries : List (String × Json)) : flat (.object entries) =
    messageFields.flatMap fun k => ((Entries.get? k entries).map flat).getD [] := by
  rw [flat, flatEntries_eq]
  simp only [Entries.get?_map]
  rfl

/-! ## the first text -/

mutual

/-- The detail is looked for where the texts stand, and in their order. -/
theorem firstString_eq_head? : ∀ v : Json, firstString v = (flat v).head?
  | .null | .bool _ | .int _ | .float _ => rfl
  | .string s => by
    rw [firstString, flat, stripped?]
    split <;> rfl
  | .list items => by rw [firstString, flat, firstOfItems_eq_head? items]
  | .object entries => by
    rw [firstString, flat, List.head?_flatMap, textsOfEntries_eq_heads entries]
    refine congrArg (fun f => messageFields.findSome? f) (funext fun k => ?_)
    rw [Entries.get?_map]
    cases Entries.get? k (flatEntries entries) <;> rfl

theorem firstOfItems_eq_head? : ∀ items : List Json, firstOfItems items = (flatItems items).head?
  | [] => rfl
  | v :: items => by
    rw [firstOfItems, flatItems, List.head?_append, firstString_eq_head? v, firstOfItems_eq_head? items]

theorem textsOfEntries_eq_heads : ∀ entries : List (String × Json),
    textsOfEntries entries = (flatEntries entries).map fun e => (e.1, e.2.head?)
  | [] => rfl
  | (k, v) :: entries => by
    rw [textsOfEntries, flatEntries, List.map_cons, firstString_eq_head? v, textsOfEntries_eq_heads entries]

end

/-! ## where the texts stand -/

/-- The string stands in the value, below lists and message fields and nothing else. -/
inductive Holds : Json → String → Prop
  | string (s : String) : Holds (.string s) s
  | item {v : Json} {items : List Json} {s : String} : v ∈ items → Holds v s → Holds (.list items) s
  | field {k : String} {v : Json} {entries : List (String × Json)} {s : String} :
    k ∈ messageFields → Entries.get? k entries = some v → Holds v s → Holds (.object entries) s

theorem mem_flat_of_holds {v : Json} {s : String} (h : Holds v s) (hs : Text.strip s ≠ "") : Text.strip s ∈ flat v := by
  induction h with
  | string s => simp [flat, hs]
  | item hv _ ih =>
    rw [flat_list, List.mem_flatMap]
    exact ⟨_, hv, ih hs⟩
  | @field k v entries s hk hv _ ih =>
    rw [flat_object, List.mem_flatMap]
    exact ⟨k, hk, by rw [hv]; exact ih hs⟩

/-- A text of a value is what is left of a string in it. -/
theorem holds_of_mem_flat {t : String} : ∀ v : Json, t ∈ flat v → t ≠ "" ∧ ∃ s, Holds v s ∧ Text.strip s = t
  | .null, h | .bool _, h | .int _, h | .float _, h => nomatch h
  | .string s, h => by
    rw [flat] at h
    split at h
    · exact nomatch h
    · rename_i hs
      obtain rfl := List.mem_singleton.1 h
      exact ⟨hs, s, .string s, rfl⟩
  | .list items, h => by
    rw [flat_list, List.mem_flatMap] at h
    obtain ⟨v, hv, ht⟩ := h
    obtain ⟨hne, s, hs, hst⟩ := holds_of_mem_flat v ht
    exact ⟨hne, s, .item hv hs, hst⟩
  | .object entries, h => by
    rw [flat_object, List.mem_flatMap] at h
    obtain ⟨k, hk, ht⟩ := h
    rcases hv : Entries.get? k entries with _ | v <;> rw [hv] at ht
    · exact nomatch ht
    · have hmem : (k, v) ∈ entries := Entries.mem_of_get? hv
      obtain ⟨hne, s, hs, hst⟩ := holds_of_mem_flat v ht
      exact ⟨hne, s, .field hk hv hs, hst⟩
decreasing_by
  · have := List.sizeOf_lt_of_mem hv
    simp
    omega
  · have := List.sizeOf_lt_of_mem hmem
    simp at this ⊢
    omega

/-- The texts of a value are what is left of the strings in it, where something is. -/
theorem mem_flat_iff {v : Json} {t : String} : t ∈ flat v ↔ t ≠ "" ∧ ∃ s, Holds v s ∧ Text.strip s = t := by
  constructor
  · exact holds_of_mem_flat v
  · rintro ⟨hne, s, hs, rfl⟩
    exact mem_flat_of_holds hs hne

theorem flat_eq_nil_iff {v : Json} : flat v = [] ↔ ∀ s, Holds v s → Text.isBlankText s = true := by
  rw [List.eq_nil_iff_forall_not_mem]
  constructor
  · intro h s hs
    rw [← Text.strip_eq_empty_iff]
    by_cases hempty : Text.strip s = ""
    · exact hempty
    · exact absurd (mem_flat_iff.2 ⟨hempty, s, hs, rfl⟩) (h _)
  · intro h t ht
    obtain ⟨hne, s, hs, rfl⟩ := mem_flat_iff.1 ht
    exact hne (Text.strip_eq_empty_iff.2 (h s hs))

/-- **The detail of an error body is the first of its texts**, and there is none exactly if it has no texts, which means
that all strings below its lists and message fields are blank; so a detail is not empty, has no blanks at its ends and
is what is left of such a string. -/
theorem firstString_head_flat (v : Json) :
    firstString v = (flat v).head? ∧
    (firstString v = none ↔ flat v = []) ∧
    (firstString v = none ↔ ∀ s, Holds v s → Text.isBlankText s = true) ∧
    ∀ d, firstString v = some d → d ≠ "" ∧ Text.strip d = d ∧ ∃ s, Holds v s ∧ Text.strip s = d := by
  have hhead := firstString_eq_head? v
  have hnone : firstString v = none ↔ flat v = [] := by rw [hhead, List.head?_eq_none_iff]
  refine ⟨hhead, hnone, hnone.trans flat_eq_nil_iff, fun d hd => ?_⟩
  rw [hhead] at hd
  obtain ⟨hne, s, hs, rfl⟩ := mem_flat_iff.1 (List.mem_of_head? hd)
  exact ⟨hne, Text.strip_strip s, s, hs, rfl⟩

/-- A blank under an earlier field, a text under a field that is none of them, and then one in a list. -/
example : firstString (.object [("title", .string "no"), ("detail", .string "late"),
    ("errors", .list [.string " ", .object [("message", .string " bad family ")]])]) = some "bad family" := by
  decide +kernel

end KitConsole.Detail
