import Yan85.Enumerated
import Yan85.Ordered

/-! # Complete tables

* `Table α β`: one entry for every member of `α`, in an order of its own.
* `get` is the entry of a member; `firstWith?` is the first member whose entry has a property.
* `firstWith?_eq_some` and `firstWith?_eq_none_iff` tie the two together.
-/

namespace Yan85
set_option autoImplicit false

/-- An entry for every member of a finite type, in an order of its own. -/
structure Table (α β : Type) [Enumerated α] extends Ordered α β where
  complete : ∀ a, a ∈ toOrdered.keys

namespace Table

variable {α β : Type} [Enumerated α]

/-- Every entry replaced by its image, the order kept. -/
def map {γ : Type} (f : α → β → γ) (t : Table α β) : Table α γ :=
  ⟨t.toOrdered.mapValues f, by simpa using t.complete⟩

/-- The first member, in the order of the table, whose entry has the property `p`. -/
def firstWith? (p : β → Bool) (t : Table α β) : Option α :=
  (t.entries.find? fun e => p e.2).map Prod.fst

/-- No two members have the same entry. -/
def Distinct (t : Table α β) : Prop := t.values.Nodup

variable [DecidableEq α]

/-- The entry of `a`. -/
def get (t : Table α β) (a : α) : β :=
  (t.find? a).get ((t.toOrdered.isSome_find?_iff a).2 (t.complete a))

theorem mem_entries_get (t : Table α β) (a : α) : (a, t.get a) ∈ t.entries := by
  have h : t.find? a = some (t.get a) := by simp [get]
  unfold Ordered.find? at h
  obtain ⟨l₁, l₂, hl, -⟩ := List.lookup_eq_some_iff.1 h
  rw [hl]
  simp

theorem eq_get_of_mem {t : Table α β} {a : α} {x : β} (h : (a, x) ∈ t.entries) : x = t.get a := by
  have hg := mem_entries_get t a
  by_cases hx : x = t.get a
  · exact hx
  · exfalso
    have hp := t.keys_nodup
    unfold List.Nodup at hp
    rw [List.pairwise_map] at hp
    have := List.Pairwise.forall_of_forall_of_flip (l := t.entries)
      (R := fun e f => e = f ∨ e.1 ≠ f.1) (fun _ _ => .inl rfl)
      (hp.imp fun h => .inr h) (hp.imp fun h => .inr fun h' => h h'.symm) h hg
    rcases this with h1 | h1
    · exact hx (congrArg Prod.snd h1)
    · exact h1 rfl

theorem mem_entries_iff {t : Table α β} {a : α} {x : β} : (a, x) ∈ t.entries ↔ x = t.get a :=
  ⟨eq_get_of_mem, fun h => h ▸ mem_entries_get t a⟩

theorem mem_values_iff {t : Table α β} {x : β} : x ∈ t.values ↔ ∃ a, t.get a = x := by
  unfold Ordered.values
  rw [List.mem_map]
  constructor
  · rintro ⟨⟨a, y⟩, hm, rfl⟩
    exact ⟨a, (eq_get_of_mem hm).symm⟩
  · rintro ⟨a, rfl⟩
    exact ⟨(a, t.get a), mem_entries_get t a, rfl⟩

theorem Distinct.get_injective {t : Table α β} (h : t.Distinct) {a b : α}
    (hab : t.get a = t.get b) : a = b := by
  unfold Distinct Ordered.values List.Nodup at h
  rw [List.pairwise_map] at h
  have := List.Pairwise.forall_of_forall_of_flip (l := t.entries)
    (R := fun e f => e = f ∨ e.2 ≠ f.2) (fun _ _ => .inl rfl)
    (h.imp fun h => .inr h) (h.imp fun h => .inr fun h' => h h'.symm)
    (mem_entries_get t a) (mem_entries_get t b)
  rcases this with h1 | h1
  · exact congrArg Prod.fst h1
  · exact absurd hab h1

@[simp] theorem get_map {γ : Type} (f : α → β → γ) (t : Table α β) (a : α) :
    (t.map f).get a = f a (t.get a) := by
  symm
  apply eq_get_of_mem
  simp only [map, Ordered.mapValues, List.mem_map]
  exact ⟨(a, t.get a), mem_entries_get t a, rfl⟩

theorem firstWith?_eq_some {p : β → Bool} {t : Table α β} {a : α} (h : t.firstWith? p = some a) :
    p (t.get a) = true := by
  unfold firstWith? at h
  rw [Option.map_eq_some_iff] at h
  obtain ⟨⟨b, x⟩, hf, rfl⟩ := h
  have hm := List.mem_of_find?_eq_some hf
  have hp := List.find?_some hf
  rw [← eq_get_of_mem hm]
  exact hp

theorem firstWith?_eq_none_iff {p : β → Bool} {t : Table α β} :
    t.firstWith? p = none ↔ ∀ a, p (t.get a) = false := by
  unfold firstWith?
  rw [Option.map_eq_none_iff, List.find?_eq_none]
  constructor
  · intro h a
    simpa using h _ (mem_entries_get t a)
  · rintro h ⟨a, x⟩ hm
    rw [eq_get_of_mem hm, h a]
    simp

end Table

end Yan85
