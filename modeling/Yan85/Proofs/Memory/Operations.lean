import Yan85.Memory

/-! # What the operations of a memory do

* `index?_eq_ok_iff`, `start?_eq_ok_iff`: which addresses and ranges lie in a memory.
* `read_eq_ok_iff`, ..., `readString_eq_ok_iff`: when an operation succeeds and what it leaves.
* `read_byte`, `write_byte`: the same for the addresses that a program can form, which are bytes.
-/

namespace Yan85.Memory
set_option autoImplicit false

variable {mem mem' : Memory}

/-- The memory with a reading of the cell `i` recorded. -/
def seen (mem : Memory) (i : Nat) : Memory := mem.record i (mem.cell i) .read

/-- The memory with the byte `x` in the cell `i`, recorded. -/
def store (mem : Memory) (i : Nat) (x : UInt8) : Memory :=
  { mem with cells := mem.cells.setIfInBounds i x }.record i x .write

/-- The memory with the bytes `xs` from the cell `i` on, recorded. -/
def storeAll (mem : Memory) (i : Nat) (xs : List UInt8) : Memory :=
  { mem with cells := overwrite mem.cells i xs }.recordAll i xs .write

/-! ## Sizes and cells -/

@[simp] theorem size_ofSize (space : Space) (n : Nat) : (ofSize space n).size = n := by
  simp [ofSize, size]

@[simp] theorem size_store (mem : Memory) (i : Nat) (x : UInt8) :
    (mem.store i x).size = mem.size := by
  simp [store, size, record]

@[simp] theorem size_storeAll (mem : Memory) (i : Nat) (xs : List UInt8) :
    (mem.storeAll i xs).size = mem.size := by
  simp [storeAll, size, recordAll]

@[simp] theorem cell_ofSize (space : Space) (n i : Nat) : (ofSize space n).cell i = 0 := by
  by_cases hi : i < n
  · simp [ofSize, cell, Array.getD_eq_getD_getElem?, hi]
  · simp [ofSize, cell, Array.getD_eq_getD_getElem?, Nat.le_of_not_lt hi]

@[simp] theorem cell_seen (mem : Memory) (i j : Nat) : (mem.seen i).cell j = mem.cell j := rfl

theorem cell_store (mem : Memory) {i : Nat} (h : i < mem.size) (j : Nat) (x : UInt8) :
    (mem.store i x).cell j = if j = i then x else mem.cell j := by
  have hi : i < mem.cells.size := h
  by_cases hj : j = i
  · subst hj
    simp [store, record, cell, hi]
  · have hij : i ≠ j := fun e => hj e.symm
    simp [store, record, cell, Array.getD_eq_getD_getElem?, hj, hij]

theorem getElem?_cells (mem : Memory) {i : Nat} (h : i < mem.size) :
    mem.cells[i]? = some (mem.cell i) := by
  have hi : i < mem.cells.size := h
  simp [cell, hi]

@[simp] theorem length_slice (mem : Memory) (start n : Nat) : (mem.slice start n).length = n := by
  simp [slice]

/-! ## Bounds -/

theorem index?_eq_ok_iff {a : Int} {i : Nat} :
    mem.index? a = .ok i ↔ a = i ∧ i < mem.size := by
  unfold index?
  split
  · rw [Except.ok.injEq]
    omega
  · constructor
    · intro h
      cases h
    · intro h
      omega

theorem start?_eq_ok_iff {start n : Int} {i : Nat} :
    mem.start? start n = .ok i ↔ start = i ∧ 0 ≤ n ∧ i + n ≤ mem.size := by
  unfold start?
  split
  · constructor
    · intro h
      cases h
    · intro h
      omega
  · rw [Except.ok.injEq]
    omega

theorem index?_error {a : Int} {f : Fault} (h : mem.index? a = .error f) :
    f = .addressOutside a mem.extent := by
  unfold index? at h
  split at h
  · cases h
  · cases h
    rfl

theorem start?_error {start n : Int} {f : Fault} (h : mem.start? start n = .error f) :
    f = .rangeOutside start n mem.extent := by
  unfold start? at h
  split at h
  · cases h
    rfl
  · cases h

/-! ## Single cells -/

theorem read_eq_ok_iff {a : Int} {x : UInt8} :
    mem.read a = .ok (x, mem') ↔
      ∃ i : Nat, a = i ∧ i < mem.size ∧ x = mem.cell i ∧ mem' = mem.seen i := by
  unfold read
  cases hi : mem.index? a with
  | error f =>
    constructor
    · intro h
      cases h
    · rintro ⟨i, ha, hlt, -⟩
      rw [index?_eq_ok_iff.2 ⟨ha, hlt⟩] at hi
      cases hi
  | ok i =>
    obtain ⟨rfl, hlt⟩ := index?_eq_ok_iff.1 hi
    constructor
    · intro h
      cases h
      exact ⟨i, rfl, hlt, rfl, rfl⟩
    · rintro ⟨j, hj, -, rfl, rfl⟩
      obtain rfl : i = j := by omega
      rfl

theorem write_eq_ok_iff {a v : Int} :
    mem.write a v = .ok mem' ↔
      ∃ (i : Nat) (x : UInt8), a = i ∧ i < mem.size ∧ v = byteValue x ∧ mem' = mem.store i x := by
  unfold write
  cases hi : mem.index? a with
  | error f =>
    constructor
    · intro h
      cases h
    · rintro ⟨i, x, ha, hlt, -⟩
      rw [index?_eq_ok_iff.2 ⟨ha, hlt⟩] at hi
      cases hi
  | ok i =>
    obtain ⟨rfl, hlt⟩ := index?_eq_ok_iff.1 hi
    cases hv : byte? v with
    | none =>
      constructor
      · intro h
        cases h
      · rintro ⟨j, x, -, -, rfl, -⟩
        rw [byte?_byteValue] at hv
        cases hv
    | some x =>
      obtain rfl := byte?_eq_some_iff.1 hv
      constructor
      · intro h
        cases h
        exact ⟨i, x, rfl, hlt, rfl, rfl⟩
      · rintro ⟨j, y, hj, -, hy, rfl⟩
        obtain rfl : i = j := by omega
        obtain rfl := byteValue_injective hy
        rfl

theorem index?_byte (mem : Memory) (a : UInt8) :
    mem.index? (byteValue a) =
      if a.toNat < mem.size then .ok a.toNat
      else .error (.addressOutside (byteValue a) mem.extent) := by
  split
  case isTrue h => exact index?_eq_ok_iff.2 ⟨rfl, h⟩
  case isFalse h =>
    cases hi : mem.index? (byteValue a) with
    | error f => rw [index?_error hi]
    | ok i =>
      obtain ⟨ha, hlt⟩ := index?_eq_ok_iff.1 hi
      obtain rfl : a.toNat = i := Int.ofNat.inj ha
      exact absurd hlt h

theorem read_byte (mem : Memory) (a : UInt8) :
    mem.read (byteValue a) =
      if a.toNat < mem.size then .ok (mem.cell a.toNat, mem.seen a.toNat)
      else .error (.addressOutside (byteValue a) mem.extent) := by
  unfold read
  rw [index?_byte]
  split
  · rfl
  · rfl

theorem write_byte (mem : Memory) (a x : UInt8) :
    mem.write (byteValue a) (byteValue x) =
      if a.toNat < mem.size then .ok (mem.store a.toNat x)
      else .error (.addressOutside (byteValue a) mem.extent) := by
  unfold write
  rw [index?_byte, byte?_byteValue]
  split
  · rfl
  · rfl

/-! ## Ranges and strings -/

theorem readRange_eq_ok_iff {start n : Int} {xs : List UInt8} :
    mem.readRange start n = .ok (xs, mem') ↔
      ∃ i k : Nat, start = i ∧ n = k ∧ i + k ≤ mem.size ∧ xs = mem.slice i k ∧
        mem' = mem.recordAll i xs .read := by
  unfold readRange
  cases hi : mem.start? start n with
  | error f =>
    constructor
    · intro h
      cases h
    · rintro ⟨i, k, hs, hn, hle, -⟩
      rw [start?_eq_ok_iff.2 ⟨hs, by omega, by omega⟩] at hi
      cases hi
  | ok i =>
    obtain ⟨rfl, hn, hle⟩ := start?_eq_ok_iff.1 hi
    constructor
    · intro h
      cases h
      exact ⟨i, n.toNat, rfl, by omega, by omega, rfl, rfl⟩
    · rintro ⟨j, k, hj, rfl, -, rfl, rfl⟩
      obtain rfl : i = j := by omega
      rfl

theorem writeRange_eq_ok_iff {start : Int} {xs : List UInt8} :
    mem.writeRange start xs = .ok mem' ↔
      ∃ i : Nat, start = i ∧ i + xs.length ≤ mem.size ∧ mem' = mem.storeAll i xs := by
  unfold writeRange
  cases hi : mem.start? start xs.length with
  | error f =>
    constructor
    · intro h
      cases h
    · rintro ⟨i, hs, hle, -⟩
      rw [start?_eq_ok_iff.2 ⟨hs, by omega, by omega⟩] at hi
      cases hi
  | ok i =>
    obtain ⟨rfl, -, hle⟩ := start?_eq_ok_iff.1 hi
    constructor
    · intro h
      cases h
      exact ⟨i, rfl, by omega, rfl⟩
    · rintro ⟨j, hj, -, rfl⟩
      obtain rfl : i = j := by omega
      rfl

theorem load_eq_ok_iff {start : Int} {xs : List UInt8} :
    mem.load start xs = .ok mem' ↔
      ∃ i : Nat, start = i ∧ i + xs.length ≤ mem.size ∧
        mem' = { mem with cells := overwrite mem.cells i xs } := by
  unfold load
  cases hi : mem.start? start xs.length with
  | error f =>
    constructor
    · intro h
      cases h
    · rintro ⟨i, hs, hle, -⟩
      rw [start?_eq_ok_iff.2 ⟨hs, by omega, by omega⟩] at hi
      cases hi
  | ok i =>
    obtain ⟨rfl, -, hle⟩ := start?_eq_ok_iff.1 hi
    constructor
    · intro h
      cases h
      exact ⟨i, rfl, by omega, rfl⟩
    · rintro ⟨j, hj, -, rfl⟩
      obtain rfl : i = j := by omega
      rfl

theorem stringLength_le (mem : Memory) (i : Nat) : mem.stringLength i ≤ mem.size - i := by
  have h := (List.takeWhile_sublist (l := mem.slice i (mem.size - i)) fun x => x != 0).length_le
  rw [length_slice] at h
  exact h

theorem readRange_error {start n : Int} {f : Fault} (h : mem.readRange start n = .error f) :
    f = .rangeOutside start n mem.extent := by
  unfold readRange at h
  cases hi : mem.start? start n with
  | error g =>
    rw [hi] at h
    cases h
    exact start?_error hi
  | ok i =>
    rw [hi] at h
    cases h

theorem writeRange_error {start : Int} {xs : List UInt8} {f : Fault}
    (h : mem.writeRange start xs = .error f) : f = .rangeOutside start xs.length mem.extent := by
  unfold writeRange at h
  cases hi : mem.start? start xs.length with
  | error g =>
    rw [hi] at h
    cases h
    exact start?_error hi
  | ok i =>
    rw [hi] at h
    cases h

theorem readString_eq_ok_iff {start : Int} {xs : List UInt8} :
    mem.readString start = .ok (xs, mem') ↔
      ∃ i : Nat, start = i ∧ i < mem.size ∧ xs = mem.slice i (mem.stringLength i) ∧
        mem' = mem.recordAll i xs .read := by
  unfold readString
  cases hi : mem.index? start with
  | error f =>
    constructor
    · intro h
      cases h
    · rintro ⟨i, hs, hlt, -⟩
      rw [index?_eq_ok_iff.2 ⟨hs, hlt⟩] at hi
      cases hi
  | ok i =>
    obtain ⟨rfl, hlt⟩ := index?_eq_ok_iff.1 hi
    change mem.readRange i (mem.stringLength i) = .ok (xs, mem') ↔ _
    rw [readRange_eq_ok_iff]
    constructor
    · rintro ⟨j, k, hj, hk, -, hxs, hm⟩
      obtain rfl : i = j := by omega
      obtain rfl : mem.stringLength i = k := by omega
      exact ⟨i, rfl, hlt, hxs, hm⟩
    · rintro ⟨j, hj, -, hxs, hm⟩
      obtain rfl : i = j := by omega
      have hle := mem.stringLength_le i
      exact ⟨i, mem.stringLength i, rfl, rfl, by omega, hxs, hm⟩

theorem readString_error {start : Int} {f : Fault} (h : mem.readString start = .error f) :
    f = .addressOutside start mem.extent := by
  cases hi : mem.index? start with
  | error g =>
    unfold readString at h
    rw [hi] at h
    cases h
    exact index?_error hi
  | ok i =>
    obtain ⟨ha, hlt⟩ := index?_eq_ok_iff.1 hi
    rw [readString_eq_ok_iff.2 ⟨i, ha, hlt, rfl, rfl⟩] at h
    cases h

theorem readRange_of_lt {i n : Nat} (h : mem.size < i + n) :
    mem.readRange i n = .error (.rangeOutside i n mem.extent) := by
  rcases hr : mem.readRange i n with f | ⟨xs, mem'⟩
  · rw [readRange_error hr]
  · obtain ⟨j, k, hj, hk, hle, -⟩ := readRange_eq_ok_iff.1 hr
    omega

theorem readString_of_le {i : Nat} (h : mem.size ≤ i) :
    mem.readString i = .error (.addressOutside i mem.extent) := by
  rcases hr : mem.readString i with f | ⟨xs, mem'⟩
  · rw [readString_error hr]
  · obtain ⟨j, hj, hlt, -⟩ := readString_eq_ok_iff.1 hr
    omega

end Yan85.Memory
