/-! # Maps that remember the order of insertion

* `Ordered κ α`: entries in the order in which their keys first came, one per key.
* `insert` keeps the place of a key that is there and gives it the new value.
* `find?` reads through the view `entries`; `find?_insert` is its law.
-/

namespace Yan85
set_option autoImplicit false

/-- Entries in the order in which their keys first came, one per key. -/
structure Ordered (κ α : Type) where
  entries : List (κ × α)
  keys_nodup : (entries.map Prod.fst).Nodup

namespace Ordered

variable {κ α : Type}

/-- The keys in order. -/
def keys (m : Ordered κ α) : List κ := m.entries.map Prod.fst

/-- The values in the order of their keys. -/
def values (m : Ordered κ α) : List α := m.entries.map Prod.snd

def empty : Ordered κ α := ⟨[], by simp⟩

/-- Every value replaced by its image, the keys and their order kept. -/
def mapValues {β : Type} (f : κ → α → β) (m : Ordered κ α) : Ordered κ β :=
  ⟨m.entries.map fun e => (e.1, f e.1 e.2), by
    simpa [List.map_map, Function.comp_def] using m.keys_nodup⟩

@[simp] theorem keys_mapValues {β : Type} (f : κ → α → β) (m : Ordered κ α) :
    (m.mapValues f).keys = m.keys := by
  simp [mapValues, keys, List.map_map, Function.comp_def]

variable [DecidableEq κ]

/-- The value at `k`. -/
def find? (m : Ordered κ α) (k : κ) : Option α := m.entries.lookup k

/-- An entry list with `v` at `k`: in the place of `k` if it is there, else at the end. -/
def insertEntry (k : κ) (v : α) : List (κ × α) → List (κ × α)
  | [] => [(k, v)]
  | e :: es => if e.1 = k then (e.1, v) :: es else e :: insertEntry k v es

theorem keys_insertEntry (k : κ) (v : α) (es : List (κ × α)) :
    (insertEntry k v es).map Prod.fst =
      if k ∈ es.map Prod.fst then es.map Prod.fst else es.map Prod.fst ++ [k] := by
  induction es with
  | nil => simp [insertEntry]
  | cons e es ih =>
    by_cases h : e.1 = k
    · simp [insertEntry, h]
    · have h' : ¬ k = e.1 := fun hk => h hk.symm
      by_cases hk : k ∈ es.map Prod.fst
      · simp only [insertEntry, h, if_false, List.map_cons, ih, if_pos hk]
        simp only [List.mem_map, Prod.exists, exists_and_right, exists_eq_right] at hk
        simp [hk]
      · simp only [insertEntry, h, if_false, List.map_cons, ih, if_neg hk]
        simp only [List.mem_map, Prod.exists, exists_and_right, exists_eq_right] at hk
        simp [h', hk]

theorem lookup_insertEntry (k j : κ) (v : α) (es : List (κ × α)) :
    (insertEntry k v es).lookup j = if j = k then some v else es.lookup j := by
  induction es with
  | nil =>
    by_cases h : j = k
    · simp [insertEntry, h]
    · have hb : (j == k) = false := by simpa using h
      simp [insertEntry, List.lookup_cons, h, hb]
  | cons e es ih =>
    obtain ⟨a, b⟩ := e
    by_cases hk : a = k
    · subst hk
      by_cases hj : j = a
      · simp [insertEntry, hj]
      · have hb : (j == a) = false := by simpa using hj
        simp [insertEntry, List.lookup_cons, hj, hb]
    · by_cases hj : j = a
      · subst hj
        simp [insertEntry, hk]
      · have hb : (j == a) = false := by simpa using hj
        simp [insertEntry, hk, List.lookup_cons, hb, ih]

/-- The map with `v` at `k`. -/
def insert (m : Ordered κ α) (k : κ) (v : α) : Ordered κ α :=
  ⟨insertEntry k v m.entries, by
    rw [keys_insertEntry]
    by_cases h : k ∈ m.entries.map Prod.fst
    · rw [if_pos h]; exact m.keys_nodup
    · rw [if_neg h]
      refine List.nodup_append.2 ⟨m.keys_nodup, by simp, ?_⟩
      intro a ha b hb hab
      simp only [List.mem_singleton] at hb
      subst hb; subst hab
      exact h ha⟩

theorem insertEntry_of_not_mem {k : κ} (v : α) {es : List (κ × α)}
    (h : k ∉ es.map Prod.fst) : insertEntry k v es = es ++ [(k, v)] := by
  induction es with
  | nil => rfl
  | cons e es ih =>
    rw [List.map_cons, List.mem_cons, not_or] at h
    have hk : ¬ e.1 = k := fun he => h.1 he.symm
    rw [insertEntry, if_neg hk, ih h.2, List.cons_append]

theorem entries_insert {m : Ordered κ α} {k : κ} (v : α) (h : k ∉ m.keys) :
    (m.insert k v).entries = m.entries ++ [(k, v)] :=
  insertEntry_of_not_mem v h

/-- The map without the key `k`. -/
def erase (m : Ordered κ α) (k : κ) : Ordered κ α :=
  ⟨m.entries.filter fun e => e.1 ≠ k, m.keys_nodup.sublist (List.filter_sublist.map Prod.fst)⟩

/-- The map of a list of entries, a later entry overriding the value of an earlier one. -/
def ofList (es : List (κ × α)) : Ordered κ α := es.foldl (fun m e => m.insert e.1 e.2) empty

theorem find?_insert (m : Ordered κ α) (k j : κ) (v : α) :
    (m.insert k v).find? j = if j = k then some v else m.find? j :=
  lookup_insertEntry k j v m.entries

@[simp] theorem find?_empty (k : κ) : (empty : Ordered κ α).find? k = none := rfl

theorem isSome_find?_iff (m : Ordered κ α) (k : κ) : (m.find? k).isSome ↔ k ∈ m.keys := by
  obtain ⟨es, hes⟩ := m
  simp only [find?, keys]
  clear hes
  induction es with
  | nil => simp
  | cons e es ih =>
    obtain ⟨a, b⟩ := e
    by_cases h : k = a
    · subst h; simp
    · have hb : (k == a) = false := by simpa using h
      simp only [List.lookup_cons, hb, List.map_cons, List.mem_cons, h, false_or]
      exact ih

theorem mem_keys_insert {m : Ordered κ α} {j k : κ} {v : α} :
    j ∈ (m.insert k v).keys ↔ j = k ∨ j ∈ m.keys := by
  rw [← isSome_find?_iff, ← isSome_find?_iff, find?_insert]
  by_cases h : j = k
  · simp [h]
  · simp [h]

end Ordered

end Yan85
