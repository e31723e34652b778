import Yan85.Action
import Yan85.Proofs.Memory.Windows
import Yan85.Proofs.Results

/-! # Ranges are cells one after the other

* `Use`: an access to one cell or to a range. `Use.perform` carries it out; a memory that refuses it
  stays as it is.
* `inTurn`: uses one after the other, ended by the first one that is refused.
* `readings`, `writings`: the cells of a range, each read or written by itself. `inTurn_readings`
  and `inTurn_writings` say what comes of them.
* `Within`: the range lies in the memory. `perform_readRange_outside`, `perform_writeRange_outside`
  and `perform_load_outside` say what comes of one that does not.
* `size_inTurn`: no use changes the number of cells.
* `ranges_are_cells_in_turn`: a range is refused as a whole, or its cells are used in turn.
-/

namespace Yan85.Memory
set_option autoImplicit false

/-! ## Uses -/

/-- A use of a memory. -/
inductive Use
  | read (address : Int)
  | write (address v : Int)
  | readRange (start length : Int)
  | writeRange (start : Int) (xs : List UInt8)
  | load (start : Int) (xs : List UInt8)
  deriving DecidableEq, Repr

namespace Use

/-- The bytes that a use reads, and the memory after it. -/
def apply (mem : Memory) : Use → Except Fault (List UInt8 × Memory)
  | read address => (mem.read address).map fun r => ([r.1], r.2)
  | write address v => (mem.write address v).map fun mem' => ([], mem')
  | readRange start length => mem.readRange start length
  | writeRange start xs => (mem.writeRange start xs).map fun mem' => ([], mem')
  | load start xs => (mem.load start xs).map fun mem' => ([], mem')

/-- Carries out a use. -/
def perform (use : Use) : Action Memory (List UInt8) := fun mem =>
  match use.apply mem with
  | .ok (xs, mem') => (.ok xs, mem')
  | .error f => (.error f, mem)

end Use

/-- Uses one after the other, with all that they read. After one that is refused nothing more is
done. -/
def inTurn : List Use → Action Memory (List UInt8)
  | [] => pure []
  | use :: uses => do
    let xs ← use.perform
    let ys ← inTurn uses
    return xs ++ ys

/-- The readings of `n` cells from `start` on. -/
def readings (start : Int) (n : Nat) : List Use :=
  (List.range n).map fun k : Nat => .read (start + k)

/-- The writings of the bytes `xs` into the cells from `start` on. -/
def writings (start : Int) (xs : List UInt8) : List Use :=
  xs.mapIdx fun k x => .write (start + k) (byteValue x)

variable {use : Use} {uses : List Use} {mem mem' mem'' : Memory} {xs ys : List UInt8} {f : Fault}

theorem perform_ok (h : use.apply mem = .ok (xs, mem')) : use.perform mem = (.ok xs, mem') := by
  unfold Use.perform
  rw [h]

theorem perform_error (h : use.apply mem = .error f) : use.perform mem = (.error f, mem) := by
  unfold Use.perform
  rw [h]

theorem inTurn_cons_ok (h : use.perform mem = (.ok xs, mem'))
    (hs : inTurn uses mem' = (.ok ys, mem'')) :
    inTurn (use :: uses) mem = (.ok (xs ++ ys), mem'') := by
  rw [inTurn, Action.bind_apply_ok h, Action.bind_apply_ok hs]
  rfl

theorem readings_succ (start : Int) (n : Nat) :
    readings start (n + 1) = .read start :: readings (start + 1) n := by
  have hk : ∀ k : Nat, start + ((k : Int) + 1) = start + 1 + k := fun k => by omega
  simp [readings, List.range_succ_eq_map, hk]

theorem writings_cons (start : Int) (x : UInt8) (xs : List UInt8) :
    writings start (x :: xs) = .write start (byteValue x) :: writings (start + 1) xs := by
  have hk : ∀ k : Nat, start + ((k : Int) + 1) = start + 1 + k := fun k => by omega
  simp [writings, List.mapIdx_cons, hk]

/-! ## Ranges in a memory -/

theorem perform_read {i : Nat} (h : i < mem.size) :
    (Use.read i).perform mem = (.ok [mem.cell i], mem.seen i) := by
  have hr : mem.read i = .ok (mem.cell i, mem.seen i) := read_eq_ok_iff.2 ⟨i, rfl, h, rfl, rfl⟩
  exact perform_ok (map_eq_ok_iff.2 ⟨_, hr, rfl⟩)

theorem perform_write {i : Nat} (h : i < mem.size) (x : UInt8) :
    (Use.write i (byteValue x)).perform mem = (.ok [], mem.store i x) := by
  have hw : mem.write i (byteValue x) = .ok (mem.store i x) :=
    write_eq_ok_iff.2 ⟨i, x, rfl, h, rfl, rfl⟩
  exact perform_ok (map_eq_ok_iff.2 ⟨_, hw, rfl⟩)

theorem perform_readRange {i n : Nat} (h : i + n ≤ mem.size) :
    (Use.readRange i n).perform mem =
      (.ok (mem.slice i n), mem.recordAll i (mem.slice i n) .read) :=
  perform_ok (readRange_eq_ok_iff.2 ⟨i, n, rfl, rfl, h, rfl, rfl⟩)

theorem perform_writeRange {i : Nat} (h : i + xs.length ≤ mem.size) :
    (Use.writeRange i xs).perform mem = (.ok [], mem.storeAll i xs) := by
  have hw : mem.writeRange i xs = .ok (mem.storeAll i xs) :=
    writeRange_eq_ok_iff.2 ⟨i, rfl, h, rfl⟩
  exact perform_ok (map_eq_ok_iff.2 ⟨_, hw, rfl⟩)

theorem perform_load {i : Nat} (h : i + xs.length ≤ mem.size) :
    (Use.load i xs).perform mem = (.ok [], { mem with cells := (mem.storeAll i xs).cells }) := by
  have hl : mem.load i xs = .ok { mem with cells := (mem.storeAll i xs).cells } :=
    load_eq_ok_iff.2 ⟨i, rfl, h, rfl⟩
  exact perform_ok (map_eq_ok_iff.2 ⟨_, hl, rfl⟩)

/-! ## Their cells in turn -/

theorem slice_succ (mem : Memory) (i n : Nat) :
    mem.slice i (n + 1) = mem.cell i :: mem.slice (i + 1) n := by
  rw [Nat.add_comm n 1, slice_add]
  rfl

theorem recordAll_cons (mem : Memory) (i : Nat) (x : UInt8) (xs : List UInt8) (d : Direction) :
    (mem.record i x d).recordAll (i + 1) xs d = mem.recordAll i (x :: xs) d := by
  simp [record, recordAll, List.mapIdx_cons, Nat.add_comm, Nat.add_left_comm]

theorem storeAll_cons (mem : Memory) (i : Nat) (x : UInt8) (xs : List UInt8) :
    (mem.store i x).storeAll (i + 1) xs = mem.storeAll i (x :: xs) :=
  recordAll_cons { mem with cells := overwrite mem.cells i (x :: xs) } i x xs .write

theorem inTurn_readings {i n : Nat} (h : i + n ≤ mem.size) :
    inTurn (readings i n) mem = (.ok (mem.slice i n), mem.recordAll i (mem.slice i n) .read) := by
  induction n generalizing mem i with
  | zero =>
    have hs : mem.slice i 0 = [] := rfl
    have hr : mem.recordAll i [] .read = mem := by simp [recordAll]
    rw [hs, hr]
    rfl
  | succ n ih =>
    have hsize : (mem.seen i).size = mem.size := rfl
    -- Being read does not change the cells: the others are those of the memory at the start.
    have hcells : (mem.seen i).slice (i + 1) n = mem.slice (i + 1) n := rfl
    have hrest : inTurn (readings (i + 1 : Nat) n) (mem.seen i) =
        (.ok ((mem.seen i).slice (i + 1) n), _) := ih (by omega)
    rw [hcells, seen, recordAll_cons] at hrest
    rw [readings_succ, slice_succ]
    exact inTurn_cons_ok (perform_read (by omega)) hrest

theorem inTurn_writings {i : Nat} (h : i + xs.length ≤ mem.size) :
    inTurn (writings i xs) mem = (.ok [], mem.storeAll i xs) := by
  induction xs generalizing mem i with
  | nil =>
    have hs : mem.storeAll i [] = mem := by simp [storeAll, overwrite, recordAll]
    rw [hs]
    rfl
  | cons x xs ih =>
    rw [List.length_cons] at h
    have hsize := mem.size_store i x
    have hrest : inTurn (writings (i + 1 : Nat) xs) (mem.store i x) =
        (.ok [], (mem.store i x).storeAll (i + 1) xs) := ih (by omega)
    rw [storeAll_cons] at hrest
    rw [writings_cons]
    exact inTurn_cons_ok (perform_write (by omega) x) hrest

/-! ## What is read back, and what is left -/

theorem slice_storeAll {i : Nat} (h : i + xs.length ≤ mem.size) :
    (mem.storeAll i xs).slice i xs.length = xs := by
  have hcells : (mem.storeAll i xs).cells = overwrite mem.cells i xs := rfl
  rw [slice_eq_take (by rw [size_storeAll]; exact h)]
  apply List.ext_getElem?
  intro k
  rw [List.getElem?_take, List.getElem?_drop, Array.getElem?_toList, hcells,
    getElem?_overwrite mem.cells i xs h]
  unfold overlaid
  by_cases hk : k < xs.length
  · rw [if_pos hk, if_pos (by omega), Nat.add_sub_cancel_left]
  · rw [if_neg hk, List.getElem?_eq_none (by omega)]

theorem getElem?_storeAll {i k : Nat} (h : i + xs.length ≤ mem.size)
    (hk : k < i ∨ i + xs.length ≤ k) : (mem.storeAll i xs).cells[k]? = mem.cells[k]? := by
  have hcells : (mem.storeAll i xs).cells = overwrite mem.cells i xs := rfl
  rw [hcells, getElem?_overwrite mem.cells i xs h]
  exact if_neg (by omega)

theorem size_of_apply (h : use.apply mem = .ok (xs, mem')) : mem'.size = mem.size := by
  cases use with
  | read address =>
    obtain ⟨⟨x, mem1⟩, hr, he⟩ := map_eq_ok_iff.1 h
    cases he
    obtain ⟨i, -, -, -, rfl⟩ := read_eq_ok_iff.1 hr
    rfl
  | write address v =>
    obtain ⟨mem1, hw, he⟩ := map_eq_ok_iff.1 h
    cases he
    obtain ⟨i, x, -, -, -, rfl⟩ := write_eq_ok_iff.1 hw
    exact size_store mem i x
  | readRange start n =>
    obtain ⟨i, k, -, -, -, -, rfl⟩ := readRange_eq_ok_iff.1 h
    rfl
  | writeRange start xs =>
    obtain ⟨mem1, hw, he⟩ := map_eq_ok_iff.1 h
    cases he
    obtain ⟨i, -, -, rfl⟩ := writeRange_eq_ok_iff.1 hw
    exact size_storeAll mem i xs
  | load start xs =>
    obtain ⟨mem1, hl, he⟩ := map_eq_ok_iff.1 h
    cases he
    obtain ⟨i, -, -, rfl⟩ := load_eq_ok_iff.1 hl
    exact size_overwrite mem.cells i xs

theorem size_perform (use : Use) (mem : Memory) : (use.perform mem).2.size = mem.size := by
  rcases h : use.apply mem with f | ⟨xs, mem'⟩
  · rw [perform_error h]
  · rw [perform_ok h]
    exact size_of_apply h

theorem size_inTurn (uses : List Use) (mem : Memory) : (inTurn uses mem).2.size = mem.size := by
  induction uses generalizing mem with
  | nil => rfl
  | cons use uses ih =>
    have h1 := size_perform use mem
    rcases hp : use.perform mem with ⟨f | xs, mem'⟩
    · rw [hp] at h1
      rw [inTurn, Action.bind_apply_error hp]
      exact h1
    · rw [hp] at h1
      have h2 := ih mem'
      rw [inTurn, Action.bind_apply_ok hp]
      rcases hs : inTurn uses mem' with ⟨f | ys, mem''⟩
      · rw [hs] at h2
        rw [Action.bind_apply_error hs]
        exact h2.trans h1
      · rw [hs] at h2
        rw [Action.bind_apply_ok hs]
        exact h2.trans h1

/-! ## Ranges outside of a memory -/

/-- The `n` cells from `start` on lie in the memory. -/
def Within (mem : Memory) (start n : Int) : Prop := 0 ≤ start ∧ 0 ≤ n ∧ start + n ≤ mem.size

instance (mem : Memory) (start n : Int) : Decidable (mem.Within start n) :=
  inferInstanceAs (Decidable (_ ∧ _))

theorem exists_of_within {start n : Int} (h : mem.Within start n) :
    ∃ i k : Nat, start = i ∧ n = k ∧ i + k ≤ mem.size := by
  obtain ⟨hs, hn, hle⟩ := h
  exact ⟨start.toNat, n.toNat, by omega, by omega, by omega⟩

theorem start?_outside {start n : Int} (h : ¬ mem.Within start n) :
    mem.start? start n = .error (.rangeOutside start n mem.extent) := by
  apply if_pos
  unfold Within at h
  omega

theorem perform_readRange_outside {start n : Int} (h : ¬ mem.Within start n) :
    (Use.readRange start n).perform mem = (.error (.rangeOutside start n mem.extent), mem) := by
  apply perform_error
  rw [Use.apply, readRange, start?_outside h]
  rfl

theorem perform_writeRange_outside {start : Int} (h : ¬ mem.Within start xs.length) :
    (Use.writeRange start xs).perform mem =
      (.error (.rangeOutside start xs.length mem.extent), mem) := by
  apply perform_error
  rw [Use.apply, writeRange, start?_outside h]
  rfl

theorem perform_load_outside {start : Int} (h : ¬ mem.Within start xs.length) :
    (Use.load start xs).perform mem =
      (.error (.rangeOutside start xs.length mem.extent), mem) := by
  apply perform_error
  rw [Use.apply, load, start?_outside h]
  rfl

/-- **A range is its cells one after the other, or it is refused as a whole.** In a memory of any
size, with any cells and records, a range that lies in it
* is read as its cells are in turn, with the same bytes and records, and no cell changes;
* is written as its cells are in turn, with the same cells and records; loading it gives the same
  cells and records nothing. It is then read back as it was written, and the cells outside are as
  they were.

A range that does not lie in it is refused as out of bounds, and neither cells nor records change.
No use of a memory, and no number of them, changes the number of its cells. -/
theorem ranges_are_cells_in_turn (mem : Memory) (start : Int) :
    (∀ n, mem.Within start n →
      (Use.readRange start n).perform mem = inTurn (readings start n.toNat) mem ∧
      ∃ xs mem', (Use.readRange start n).perform mem = (.ok xs, mem') ∧ mem'.cells = mem.cells) ∧
    (∀ xs : List UInt8, mem.Within start xs.length →
      (Use.writeRange start xs).perform mem = inTurn (writings start xs) mem ∧
      ∃ mem', (Use.writeRange start xs).perform mem = (.ok [], mem') ∧
        (Use.load start xs).perform mem = (.ok [], { mem with cells := mem'.cells }) ∧
        ((Use.readRange start xs.length).perform mem').1 = .ok xs ∧
        ∀ k : Nat, k < start ∨ start + xs.length ≤ k → mem'.cells[k]? = mem.cells[k]?) ∧
    (∀ n, ¬ mem.Within start n →
      ∃ f : Fault, f.kind = .outOfBounds ∧ (Use.readRange start n).perform mem = (.error f, mem)) ∧
    (∀ xs : List UInt8, ¬ mem.Within start xs.length →
      ∃ f : Fault, f.kind = .outOfBounds ∧ (Use.writeRange start xs).perform mem = (.error f, mem) ∧
        (Use.load start xs).perform mem = (.error f, mem)) ∧
    ∀ uses, (inTurn uses mem).2.size = mem.size := by
  refine ⟨fun n h => ?_, fun xs h => ?_, fun n h => ⟨_, rfl, perform_readRange_outside h⟩,
    fun xs h => ⟨_, rfl, perform_writeRange_outside h, perform_load_outside h⟩,
    fun uses => size_inTurn uses mem⟩
  · obtain ⟨i, k, rfl, rfl, hle⟩ := exists_of_within h
    have hp := perform_readRange hle
    exact ⟨hp.trans (inTurn_readings hle).symm, _, _, hp, rfl⟩
  · obtain ⟨i, k, rfl, hk, hle⟩ := exists_of_within h
    obtain rfl : xs.length = k := by omega
    have hp := perform_writeRange hle
    have hsize := mem.size_storeAll i xs
    refine ⟨hp.trans (inTurn_writings hle).symm, _, hp, perform_load hle, ?_, fun j hj => ?_⟩
    · rw [perform_readRange (by omega), slice_storeAll hle]
    · exact getElem?_storeAll hle (by omega)

/-- Two bytes fit into four cells from the third one on. From the fourth one on they are refused,
where the first of the two writings would go through. -/
theorem fourCells_fit :
    (∃ mem', inTurn [.write 2 7, .write 3 8] (ofSize .main 4) = (.ok [], mem') ∧
      (Use.writeRange 2 [7, 8]).perform (ofSize .main 4) = (.ok [], mem') ∧
      ((Use.readRange 2 2).perform mem').1 = .ok [7, 8] ∧ mem'.cells[1]? = some 0) ∧
    (Use.readRange 2 2).perform (ofSize .main 4) = inTurn [.read 2, .read 3] (ofSize .main 4) ∧
    (∃ f, (Use.writeRange 3 [7, 8]).perform (ofSize .main 4) = (.error f, ofSize .main 4)) ∧
    (∃ f, (Use.readRange 5 0).perform (ofSize .main 4) = (.error f, ofSize .main 4)) ∧
    (inTurn [.write 3 7, .write 4 8] (ofSize .main 4)).2.cells[3]? = some 7 := by
  obtain ⟨hr, hw, -, -, -⟩ := ranges_are_cells_in_turn (ofSize .main 4) 2
  obtain ⟨-, -, -, hno, -⟩ := ranges_are_cells_in_turn (ofSize .main 4) 3
  obtain ⟨-, -, hout, -, -⟩ := ranges_are_cells_in_turn (ofSize .main 4) 5
  obtain ⟨hturn, mem', hp, -, hback, hleft⟩ := hw [7, 8] (by decide)
  obtain ⟨f, -, hf, -⟩ := hno [7, 8] (by decide)
  obtain ⟨g, -, hg⟩ := hout 0 (by decide)
  refine ⟨⟨mem', hturn.symm.trans hp, hp, hback, ?_⟩, (hr 2 (by decide)).1, ⟨f, hf⟩, ⟨g, hg⟩,
    by decide⟩
  rw [hleft 1 (by decide)]
  rfl

end Yan85.Memory
