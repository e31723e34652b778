import Yan85.Proofs.Memory.Windows

/-! # Strings in a memory

* `StringAt mem a s`: the bytes `s` stand in the cells from `a` on. None of them is zero, and behind
  them there is a zero or the end of the memory.
* `stringAt_slice`, `StringAt.unique`: at each address of a memory there is one string and no other.
* `readString_stringAt_iff`: this is the string that is read, and its cells are what is recorded.
-/

namespace Yan85.Memory
set_option autoImplicit false

variable {mem mem' : Memory} {a : Nat} {s t : List UInt8}

/-- The bytes `s` stand from the cell `a` on, up to the first zero or the end of the memory. -/
structure StringAt (mem : Memory) (a : Nat) (s : List UInt8) : Prop where
  inside : a < mem.size
  bytes : ∀ (k : Nat) (x : UInt8), s[k]? = some x → mem.cells[a + k]? = some x
  nonzero : 0 ∉ s
  ends : mem.cells[a + s.length]? = none ∨ mem.cells[a + s.length]? = some 0

/-! ## One string at each address -/

theorem StringAt.length_le (hs : mem.StringAt a s) (ht : mem.StringAt a t) :
    t.length ≤ s.length := by
  -- A longer string would have the zero or the end behind `s` among its own bytes.
  by_contra hlt
  have hk : s.length < t.length := by omega
  have hx := List.getElem?_eq_getElem hk
  have hc := ht.bytes s.length t[s.length] hx
  have hm : t[s.length] ∈ t := List.getElem_mem hk
  rcases hs.ends with he | he
  · rw [hc] at he
    cases he
  · rw [hc, Option.some.injEq] at he
    rw [he] at hm
    exact ht.nonzero hm

theorem StringAt.unique (hs : mem.StringAt a s) (ht : mem.StringAt a t) : s = t := by
  have hlen : s.length = t.length := by
    have h1 := hs.length_le ht
    have h2 := ht.length_le hs
    omega
  apply List.ext_getElem hlen
  intro k hk hk'
  have h1 := hs.bytes k s[k] (List.getElem?_eq_getElem hk)
  have h2 := ht.bytes k t[k] (List.getElem?_eq_getElem hk')
  rw [h1] at h2
  exact Option.some.inj h2

theorem getElem?_takeWhile_length {α : Type} (p : α → Bool) (l : List α) :
    l[(l.takeWhile p).length]? = none ∨ ∃ x, l[(l.takeWhile p).length]? = some x ∧ p x = false := by
  induction l with
  | nil => exact .inl rfl
  | cons y l ih =>
    by_cases hy : p y = true
    · rw [List.takeWhile_cons, if_pos hy, List.length_cons, List.getElem?_cons_succ]
      exact ih
    · rw [List.takeWhile_cons, if_neg hy]
      exact .inr ⟨y, rfl, by simpa using hy⟩

theorem stringAt_slice (h : a < mem.size) :
    mem.StringAt a (mem.slice a (mem.stringLength a)) := by
  have hcell : ∀ k, (mem.cells.toList.drop a)[k]? = mem.cells[a + k]? := by
    intro k
    rw [List.getElem?_drop, Array.getElem?_toList]
  rw [string_eq_takeWhile (Nat.le_of_lt h)]
  refine ⟨h, ?_, ?_, ?_⟩
  · intro k x hx
    obtain ⟨rest, hrest⟩ := List.takeWhile_prefix (l := mem.cells.toList.drop a) fun x => x != 0
    obtain ⟨hk, -⟩ := List.getElem?_eq_some_iff.1 hx
    rw [← hcell, ← hrest, List.getElem?_append_left hk]
    exact hx
  · intro hz
    have hne := List.all_eq_true.1 List.all_takeWhile 0 hz
    simp at hne
  · have he := getElem?_takeWhile_length (fun x => x != 0) (mem.cells.toList.drop a)
    rw [hcell] at he
    rcases he with he | ⟨x, hx, hz⟩
    · exact .inl he
    · have hx0 : x = 0 := by simpa using hz
      rw [hx0] at hx
      exact .inr hx

theorem exists_stringAt_iff : (∃ s, mem.StringAt a s) ↔ a < mem.size :=
  ⟨fun ⟨_, hs⟩ => hs.inside, fun h => ⟨_, stringAt_slice h⟩⟩

/-! ## Reading -/

theorem readString_stringAt_iff {start : Int} :
    mem.readString start = .ok (s, mem') ↔
      ∃ a : Nat, start = a ∧ mem.StringAt a s ∧ mem' = mem.recordAll a s .read := by
  rw [readString_eq_ok_iff]
  constructor
  · rintro ⟨a, ha, hlt, rfl, hm⟩
    exact ⟨a, ha, stringAt_slice hlt, hm⟩
  · rintro ⟨a, ha, hs, hm⟩
    exact ⟨a, ha, hs.inside, hs.unique (stringAt_slice hs.inside), hm⟩

end Yan85.Memory
