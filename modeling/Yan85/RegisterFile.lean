import Yan85.Bindings.Basic

/-! # The register file

* `RegisterFile b`: one cell for every bit position up to the highest bit that `b` gives to a
  register; a register lives in the cell at the position of its bit.
* `get`, `set`: a register as a byte; `get_set` says that each register has a cell of its own.
* `read`, `write`: the same for operands, which may be missing, and for integers, which may be no
  bytes.
-/

namespace Yan85
set_option autoImplicit false

/-! ## One cell per register -/

theorem SingleBit.toNat_eq {x : UInt8} (h : SingleBit x) : x.toNat = Nat.pow 2 x.toNat.log2 := by
  have key : ∀ n : Fin 256, SingleBit (UInt8.ofNat n.val) → n.val = Nat.pow 2 n.val.log2 := by
    decide +kernel
  have := key ⟨x.toNat, x.toNat_lt⟩
  simp only [UInt8.ofNat_toNat] at this
  exact this h

theorem Bindings.toNat_register (b : Bindings) (r : Register) :
    (b.registers.get r).toNat = Nat.pow 2 (b.slot r) := (b.registers_single r).toNat_eq

theorem Bindings.slot_injective (b : Bindings) {r q : Register} (h : b.slot r = b.slot q) :
    r = q := by
  apply b.registers_distinct.get_injective
  apply UInt8.toNat_inj.1
  rw [b.toNat_register, b.toNat_register, h]

/-- The cells of the registers. -/
structure RegisterFile (b : Bindings) where
  cells : Vector UInt8 b.slotCount
  deriving DecidableEq

namespace RegisterFile

variable {b : Bindings}

/-- All registers zero. -/
def zero (b : Bindings) : RegisterFile b := ⟨Vector.replicate b.slotCount 0⟩

/-- The byte in a register. -/
def get (rf : RegisterFile b) (r : Register) : UInt8 :=
  getElem rf.cells (b.slot r) (b.slot_lt_slotCount r)

/-- The file with the byte `x` in the register `r`. -/
def set (rf : RegisterFile b) (r : Register) (x : UInt8) : RegisterFile b :=
  ⟨rf.cells.set (b.slot r) x (b.slot_lt_slotCount r)⟩

@[simp] theorem get_zero (r : Register) : (zero b).get r = 0 := by
  simp [zero, get]

theorem get_set (rf : RegisterFile b) (r q : Register) (x : UInt8) :
    (rf.set r x).get q = if q = r then x else rf.get q := by
  simp only [get, set, Vector.getElem_set]
  by_cases h : q = r
  · simp [h]
  · have hs : b.slot r ≠ b.slot q := fun hs => h (b.slot_injective hs).symm
    simp [h, hs]

@[simp] theorem get_set_self (rf : RegisterFile b) (r : Register) (x : UInt8) :
    (rf.set r x).get r = x := by simp [get_set]

theorem get_set_ne (rf : RegisterFile b) {r q : Register} (x : UInt8) (h : q ≠ r) :
    (rf.set r x).get q = rf.get q := by simp [get_set, h]

theorem set_set (rf : RegisterFile b) (r : Register) (x y : UInt8) :
    (rf.set r x).set r y = rf.set r y := by simp [set]

/-- The byte in the register that an operand names. -/
def read (rf : RegisterFile b) : Operand → Except Fault UInt8
  | some r => .ok (rf.get r)
  | none => .error .noOperand

/-- The file with the integer `v` in the register that an operand names. -/
def write (rf : RegisterFile b) (dst : Operand) (v : Int) : Except Fault (RegisterFile b) :=
  match dst with
  | none => .error .noOperand
  | some r =>
    match byte? v with
    | some x => .ok (rf.set r x)
    | none => .error (.notRegisterValue v)

@[simp] theorem read_some (rf : RegisterFile b) (r : Register) :
    rf.read (some r) = .ok (rf.get r) := rfl

@[simp] theorem read_none (rf : RegisterFile b) : rf.read none = .error .noOperand := rfl

@[simp] theorem write_byte (rf : RegisterFile b) (r : Register) (x : UInt8) :
    rf.write (some r) (byteValue x) = .ok (rf.set r x) := by simp [write]

@[simp] theorem write_none (rf : RegisterFile b) (v : Int) :
    rf.write none v = .error .noOperand := rfl

/-- All registers and their bytes, in the order of their listing. -/
def toList (rf : RegisterFile b) : List (Register × UInt8) :=
  Enumerated.all.map fun r => (r, rf.get r)

/-- Which flags are set in `F`, in the order of the flag table. -/
def flagState (rf : RegisterFile b) : List (Flag × Bool) :=
  b.flags.entries.map fun e => (e.1, (rf.get .F &&& e.2) != 0)

/-- A list of registers as one line of text. -/
def lineOf (rs : List (Register × UInt8)) : String :=
  "Registers(" ++ " ".intercalate (rs.map fun e =>
    Enumerated.name e.1 ++ "=" ++ Text.Hex.padded (byteValue e.2)) ++ ")"

/-- The file as one line of text. -/
def text (rf : RegisterFile b) : String := lineOf rf.toList

end RegisterFile

end Yan85
