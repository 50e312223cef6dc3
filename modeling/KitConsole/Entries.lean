/-!
# Ordered mappings

* `Entries α` — keys with values, in the order in which the keys were first written.
* `get?`, `put`, `erase`, `putAll` — a key that is written again keeps its place and takes the new value.
* `get?_eq_none_iff`, `get?_map`, `get?_put_self`, `get?_put_of_ne`, `keys_put`, `put_put`, `put_of_get?`,
  `put_of_not_mem`, `keys_erase`, `get?_erase_self`, `get?_erase_of_ne`, `erase_put`, `erase_put_of_not_mem` — what
  writing and erasing a key do to the values and to the order of the keys.
* `nodup_keys_put`, `nodup_keys_ofPairs` — no key comes to stand twice; `get?_of_mem`, `ofPairs_eq_self` — where none
  does, every entry is found under its key, and writing the entries one after the other changes nothing.
-/

namespace KitConsole

abbrev Entries (α : Type) := List (String × α)

namespace Entries

variable {α : Type}

def get? (k : String) : Entries α → Option α
  | [] => none
  | (k', v) :: rest => if k' = k then some v else get? k rest

def put (k : String) (v : α) : Entries α → Entries α
  | [] => [(k, v)]
  | (k', v') :: rest => if k' = k then (k, v) :: rest else (k', v') :: put k v rest

def erase (k : String) : Entries α → Entries α
  | [] => []
  | (k', v) :: rest => if k' = k then rest else (k', v) :: erase k rest

/-- The entries of `more` written one after the other. -/
def putAll (more : Entries α) (es : Entries α) : Entries α := more.foldl (fun es kv => put kv.1 kv.2 es) es

/-- A mapping from pairs, the last value of a key that occurs again. -/
def ofPairs (pairs : List (String × α)) : Entries α := putAll pairs []

def keys (es : Entries α) : List String := es.map (·.1)

def values (es : Entries α) : List α := es.map (·.2)

/-! ## writing and erasing -/

theorem get?_put_self (k : String) (v : α) (es : Entries α) : get? k (put k v es) = some v := by
  induction es with
  | nil => simp [put, get?]
  | cons e es ih =>
    obtain ⟨k', v'⟩ := e
    by_cases h : k' = k
    · simp [put, get?, h]
    · simp [put, get?, h, ih]

theorem get?_put_of_ne {k k' : String} (h : k' ≠ k) (v : α) (es : Entries α) :
    get? k' (put k v es) = get? k' es := by
  induction es with
  | nil => simp [put, get?, h.symm]
  | cons e es ih =>
    obtain ⟨l, w⟩ := e
    by_cases hl : l = k
    · subst hl
      simp [put, get?, h.symm]
    · by_cases hk : l = k'
      · subst hk
        simp [put, get?, h]
      · simp [put, get?, hl, hk, ih]

/-- Of two values for one key the second stays. -/
theorem put_put (k : String) (v w : α) (es : Entries α) : put k w (put k v es) = put k w es := by
  induction es with
  | nil => simp [put]
  | cons e es ih =>
    obtain ⟨l, u⟩ := e
    by_cases hl : l = k
    · simp [put, hl]
    · simp [put, hl, ih]

/-- The value that is there may be written again. -/
theorem put_of_get? {k : String} {v : α} {es : Entries α} (h : get? k es = some v) : put k v es = es := by
  induction es with
  | nil => simp [get?] at h
  | cons e es ih =>
    obtain ⟨l, u⟩ := e
    by_cases hl : l = k
    · simp only [get?, if_pos hl, Option.some.injEq] at h
      simp [put, hl, h]
    · simp only [get?, if_neg hl] at h
      simp [put, hl, ih h]

theorem keys_put (k : String) (v : α) (es : Entries α) :
    keys (put k v es) = if k ∈ keys es then keys es else keys es ++ [k] := by
  induction es with
  | nil => simp [put, keys]
  | cons e es ih =>
    obtain ⟨l, w⟩ := e
    by_cases hl : l = k
    · simp [put, keys, hl]
    · have hk : k ≠ l := fun h => hl h.symm
      by_cases hm : k ∈ keys es
      · rw [if_pos hm] at ih
        simp only [keys] at ih hm
        simp [put, keys, hl, hk, hm, ih]
      · rw [if_neg hm] at ih
        simp only [keys] at ih hm
        simp [put, keys, hl, hk, hm, ih]

theorem nodup_keys_put (k : String) (v : α) {es : Entries α} (h : (keys es).Nodup) : (keys (put k v es)).Nodup := by
  rw [keys_put]
  split
  · exact h
  · rename_i hk
    rw [List.nodup_append]
    refine ⟨h, by simp, fun a ha b hb => ?_⟩
    rw [List.mem_singleton.1 hb]
    exact fun hab => hk (hab ▸ ha)

theorem nodup_keys_putAll (more : List (String × α)) {es : Entries α} (h : (keys es).Nodup) :
    (keys (putAll more es)).Nodup := by
  induction more generalizing es with
  | nil => exact h
  | cons e more ih => exact ih (nodup_keys_put e.1 e.2 h)

/-- A mapping from pairs holds no key twice. -/
theorem nodup_keys_ofPairs (pairs : List (String × α)) : (keys (ofPairs pairs)).Nodup :=
  nodup_keys_putAll pairs (by simp [keys])

theorem put_ne_nil (k : String) (v : α) (es : Entries α) : put k v es ≠ [] := by
  cases es with
  | nil => simp [put]
  | cons e es =>
    obtain ⟨l, w⟩ := e
    unfold put
    split <;> simp

theorem length_put (k : String) (v : α) (es : Entries α) :
    (put k v es).length = if k ∈ keys es then es.length else es.length + 1 := by
  have h : (keys (put k v es)).length = (put k v es).length := by simp [keys]
  rw [← h, keys_put]
  split <;> simp [keys]

/-- A new key is written at the end. -/
theorem put_of_not_mem {k : String} {es : Entries α} (h : k ∉ keys es) (v : α) : put k v es = es ++ [(k, v)] := by
  induction es with
  | nil => rfl
  | cons e es ih =>
    obtain ⟨l, w⟩ := e
    simp only [keys, List.map_cons, List.mem_cons, not_or] at h
    have hl : l ≠ k := fun hl => h.1 hl.symm
    simp [put, hl, ih h.2]

theorem values_put_of_not_mem {k : String} {es : Entries α} (h : k ∉ keys es) (v : α) :
    values (put k v es) = values es ++ [v] := by
  rw [put_of_not_mem h]
  simp [values]

theorem mem_of_mem_put {k : String} {v : α} {e : String × α} {es : Entries α} (h : e ∈ put k v es) :
    e = (k, v) ∨ e ∈ es := by
  induction es with
  | nil => exact .inl (by simpa [put] using h)
  | cons f es ih =>
    obtain ⟨l, u⟩ := f
    by_cases hl : l = k
    · rw [put, if_pos hl] at h
      exact (List.mem_cons.1 h).imp_right (List.mem_cons_of_mem _)
    · rw [put, if_neg hl] at h
      rcases List.mem_cons.1 h with rfl | h
      · exact .inr List.mem_cons_self
      · exact (ih h).imp_right (List.mem_cons_of_mem _)

theorem get?_isSome_iff (k : String) (es : Entries α) : (get? k es).isSome = true ↔ k ∈ keys es := by
  induction es with
  | nil => simp [get?, keys]
  | cons e es ih =>
    obtain ⟨l, w⟩ := e
    by_cases hl : l = k
    · simp [get?, keys, hl]
    · have hk : k ≠ l := fun h => hl h.symm
      simp only [keys] at ih
      simp [get?, keys, hl, hk, ih]

theorem get?_eq_none_iff {k : String} {es : Entries α} : get? k es = none ↔ k ∉ keys es := by
  rw [← get?_isSome_iff, Option.not_isSome_iff_eq_none]

theorem exists_get? {k : String} {es : Entries α} (h : k ∈ keys es) : ∃ v, get? k es = some v :=
  Option.isSome_iff_exists.1 ((get?_isSome_iff k es).2 h)

theorem mem_of_get? {k : String} {v : α} {es : Entries α} (h : get? k es = some v) :
    (k, v) ∈ es := by
  induction es with
  | nil => simp [get?] at h
  | cons e es ih =>
    obtain ⟨l, w⟩ := e
    by_cases hl : l = k
    · simp [get?, hl] at h
      simp [hl, h]
    · simp only [get?, if_neg hl] at h
      exact List.mem_cons_of_mem _ (ih h)

/-- Looking up a key in changed values changes the value that is found. -/
theorem get?_map {β : Type} (f : α → β) (k : String) (es : Entries α) :
    get? k (es.map fun e => (e.1, f e.2)) = (get? k es).map f := by
  induction es with
  | nil => rfl
  | cons e es ih =>
    obtain ⟨l, w⟩ := e
    by_cases hl : l = k
    · simp [get?, hl]
    · simp only [List.map_cons, get?, if_neg hl, ih]

/-- In a mapping every entry is found under its key. -/
theorem get?_of_mem {k : String} {v : α} {es : Entries α} (h : (keys es).Nodup) (hmem : (k, v) ∈ es) :
    get? k es = some v := by
  induction es with
  | nil => simp at hmem
  | cons e es ih =>
    obtain ⟨l, w⟩ := e
    simp only [keys, List.map_cons, List.nodup_cons] at h
    rcases List.mem_cons.1 hmem with heq | hmem
    · obtain ⟨rfl, rfl⟩ := Prod.mk.inj heq
      simp [get?]
    · have hl : l ≠ k := by
        rintro rfl
        exact h.1 (List.mem_map_of_mem hmem)
      rw [get?, if_neg hl, ih h.2 hmem]

theorem putAll_eq_append {more es : Entries α} (h : (keys (es ++ more)).Nodup) : putAll more es = es ++ more := by
  induction more generalizing es with
  | nil => exact (List.append_nil es).symm
  | cons e more ih =>
    obtain ⟨k, v⟩ := e
    have hk : k ∉ keys es := by
      simp only [keys, List.map_append, List.map_cons, List.nodup_append] at h
      exact fun hmem => h.2.2 k hmem k List.mem_cons_self rfl
    have hsplit : es ++ (k, v) :: more = es ++ [(k, v)] ++ more := by simp
    rw [hsplit] at h ⊢
    rw [← ih h, ← put_of_not_mem hk v]
    rfl

/-- Pairs of which no two have the same key are a mapping as they stand. -/
theorem ofPairs_eq_self {pairs : List (String × α)} (h : (keys pairs).Nodup) : ofPairs pairs = pairs :=
  putAll_eq_append (by rwa [List.nil_append])

theorem keys_erase (k : String) (es : Entries α) : keys (erase k es) = (keys es).erase k := by
  induction es with
  | nil => simp [erase, keys]
  | cons e es ih =>
    obtain ⟨l, w⟩ := e
    by_cases hl : l = k
    · simp [erase, keys, hl]
    · simp only [keys] at ih
      simp [erase, keys, hl, ih]

theorem mem_of_mem_erase {k : String} {e : String × α} {es : Entries α} (h : e ∈ erase k es) : e ∈ es := by
  induction es with
  | nil => exact h
  | cons f es ih =>
    obtain ⟨l, u⟩ := f
    by_cases hl : l = k
    · rw [erase, if_pos hl] at h
      exact List.mem_cons_of_mem _ h
    · rw [erase, if_neg hl] at h
      exact List.mem_cons.2 ((List.mem_cons.1 h).imp_right ih)

theorem get?_erase_self {k : String} {es : Entries α} (h : (keys es).Nodup) : get? k (erase k es) = none := by
  rw [get?_eq_none_iff, keys_erase]
  exact h.not_mem_erase

theorem get?_erase_of_ne {k k' : String} (h : k' ≠ k) (es : Entries α) : get? k' (erase k es) = get? k' es := by
  induction es with
  | nil => simp [erase, get?]
  | cons e es ih =>
    obtain ⟨l, w⟩ := e
    by_cases hl : l = k
    · subst hl
      simp [erase, get?, h.symm]
    · by_cases hk : l = k'
      · subst hk
        simp [erase, get?, h]
      · simp [erase, get?, hl, hk, ih]

/-- Erasing a key that was written leaves the entries of the other keys. -/
theorem erase_put {k : String} {es : Entries α} (h : (keys es).Nodup) (v : α) :
    erase k (put k v es) = es.filter fun e => e.1 ≠ k := by
  induction es with
  | nil => simp [put, erase]
  | cons e es ih =>
    obtain ⟨l, w⟩ := e
    simp only [keys, List.map_cons, List.nodup_cons] at h
    obtain ⟨hl, hes⟩ := h
    by_cases hk : l = k
    · subst hk
      have hrest : es.filter (fun e => decide (e.1 ≠ l)) = es := by
        refine List.filter_eq_self.2 fun e he => decide_eq_true ?_
        intro heq
        exact hl (List.mem_map.2 ⟨e, he, heq⟩)
      rw [List.filter_cons_of_neg (by simp), hrest]
      simp [put, erase]
    · simp [put, erase, hk, ih hes]

/-- Erasing a key that was new undoes writing it. -/
theorem erase_put_of_not_mem {k : String} {es : Entries α} (h : k ∉ keys es) (v : α) : erase k (put k v es) = es := by
  induction es with
  | nil => simp [put, erase]
  | cons e es ih =>
    obtain ⟨l, w⟩ := e
    simp only [keys, List.map_cons, List.mem_cons, not_or] at h
    have hl : l ≠ k := fun hl => h.1 hl.symm
    simp [put, erase, hl, ih h.2]

end Entries

end KitConsole
