import Yan85.Access
import Yan85.Bindings.Basic
import Yan85.Fault

/-! # Memories

* `Memory`: cells, and a record of the accesses since the record was last taken.
* `read`, `write`: one cell, recorded; `peek` reads without a record.
* `readRange`, `writeRange`: consecutive cells, recorded one by one; `load` writes without a record.
* `readString`: the cells up to the next zero byte or the end.
* An operation that fails returns no memory: it changes neither the cells nor the record.
-/

namespace Yan85
set_option autoImplicit false

/-- The number of cells that a byte can address. -/
def addressSpaceSize : Nat := 0x100

/-- Cells, and the accesses recorded since the record was last taken, the earliest first. -/
structure Memory where
  space : Space
  cells : Array UInt8
  log : List Access
  /-- The size was given as the truth value `true`. -/
  asTruth : Bool
  deriving DecidableEq

namespace Memory

/-- A memory of `n` cells, all zero. -/
def ofSize (space : Space) (n : Nat) : Memory := ⟨space, Array.replicate n 0, [], false⟩

/-- A memory of the size that a value gives: a whole number above zero, or the truth value `true`
for one cell. -/
def ofValue? (space : Space) : Value → Except Fault Memory
  | .int n => if 0 < n then .ok (ofSize space n.toNat) else .error (.badSize space)
  | .bool true => .ok { ofSize space 1 with asTruth := true }
  | _ => .error (.badSize space)

/-- The number of cells. -/
def size (m : Memory) : Nat := m.cells.size

/-- The size as messages show it. -/
def extent (m : Memory) : Extent := ⟨m.space, m.size, m.asTruth⟩

/-- The cell at `i`, zero outside. -/
def cell (m : Memory) (i : Nat) : UInt8 := m.cells.getD i 0

/-- The cells from `start` on, `n` of them. -/
def slice (m : Memory) (start n : Nat) : List UInt8 :=
  (List.range n).map fun k => m.cell (start + k)

/-! ## Bounds -/

/-- The index of an address, if it lies in the memory. -/
def index? (m : Memory) (address : Int) : Except Fault Nat :=
  if 0 ≤ address ∧ address < m.size then .ok address.toNat
  else .error (.addressOutside address m.extent)

/-- The index of the start of a range, if the whole range lies in the memory. -/
def start? (m : Memory) (start length : Int) : Except Fault Nat :=
  if start < 0 ∨ length < 0 ∨ (m.size : Int) < start + length then
    .error (.rangeOutside start length m.extent)
  else .ok start.toNat

/-! ## Cells and records -/

/-- The memory with one more access recorded. -/
def record (m : Memory) (i : Nat) (x : UInt8) (d : Direction) : Memory :=
  { m with log := m.log ++ [⟨m.space, i, x, d⟩] }

/-- The memory with accesses to consecutive cells recorded. -/
def recordAll (m : Memory) (start : Nat) (xs : List UInt8) (d : Direction) : Memory :=
  { m with log := m.log ++ xs.mapIdx fun k x => ⟨m.space, start + k, x, d⟩ }

/-- Cells with the bytes `xs` from `start` on. -/
def overwrite (cells : Array UInt8) (start : Nat) : List UInt8 → Array UInt8
  | [] => cells
  | x :: xs => overwrite (cells.setIfInBounds start x) (start + 1) xs

@[simp] theorem size_overwrite (cells : Array UInt8) (start : Nat) (xs : List UInt8) :
    (overwrite cells start xs).size = cells.size := by
  induction xs generalizing cells start with
  | nil => rfl
  | cons x xs ih => simp [overwrite, ih]

/-! ## Operations -/

/-- The byte at an address, recorded. -/
def read (m : Memory) (address : Int) : Except Fault (UInt8 × Memory) := do
  let i ← m.index? address
  return (m.cell i, m.record i (m.cell i) .read)

/-- The memory with the integer `v` at an address, recorded. -/
def write (m : Memory) (address v : Int) : Except Fault Memory := do
  let i ← m.index? address
  match byte? v with
  | some x => return { m with cells := m.cells.setIfInBounds i x }.record i x .write
  | none => throw (.notCellValue v)

/-- The byte at an address, not recorded. -/
def peek (m : Memory) (address : Int) : Except Fault UInt8 := do
  return m.cell (← m.index? address)

/-- The bytes of a range, each recorded. -/
def readRange (m : Memory) (start length : Int) : Except Fault (List UInt8 × Memory) := do
  let i ← m.start? start length
  let xs := m.slice i length.toNat
  return (xs, m.recordAll i xs .read)

/-- The memory with the bytes `xs` from `start` on, each recorded. -/
def writeRange (m : Memory) (start : Int) (xs : List UInt8) : Except Fault Memory := do
  let i ← m.start? start xs.length
  return { m with cells := overwrite m.cells i xs }.recordAll i xs .write

/-- The memory with the bytes `xs` from `start` on, not recorded. -/
def load (m : Memory) (start : Int) (xs : List UInt8) : Except Fault Memory := do
  let i ← m.start? start xs.length
  return { m with cells := overwrite m.cells i xs }

/-- The number of cells from `i` on before the first zero byte or the end. -/
def stringLength (m : Memory) (i : Nat) : Nat :=
  ((m.slice i (m.size - i)).takeWhile fun x => x != 0).length

/-- The bytes from `start` up to the next zero byte or the end, each recorded. -/
def readString (m : Memory) (start : Int) : Except Fault (List UInt8 × Memory) := do
  let i ← m.index? start
  m.readRange i (m.stringLength i)

/-- The record of accesses, and the memory with an empty record. -/
def takeLog (m : Memory) : List Access × Memory := (m.log, { m with log := [] })

end Memory

end Yan85
