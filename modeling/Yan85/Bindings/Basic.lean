import Yan85.Bindings.Table
import Yan85.Instruction

/-! # The encoding of a machine

* `Layout`: the place of each field within the three bytes of an instruction.
* `Bindings`: the byte of every register, flag, system call and operation, and a layout. What makes
  decoding unambiguous is part of the type: distinct bytes, and one bit per register.
* `slot`: the storage cell of a register is the position of its bit.
* Lookups from integers back to names; `registerFor` and `mnemonicFor` refuse what is bound to nothing,
  but zero is the missing register.
* `agrees`: the equality of two encodings.
-/

namespace Yan85
set_option autoImplicit false

/-- A byte with exactly one bit set. -/
def SingleBit (x : UInt8) : Prop := x ≠ 0 ∧ x &&& (x - 1) = 0

instance (x : UInt8) : Decidable (SingleBit x) := inferInstanceAs (Decidable (_ ∧ _))

/-- Whether the values of a table are equal to 0, 1 and 2 in some order. -/
def Permutes (t : Table Field Value) : Prop :=
  (∀ f : Field, (t.get f).smallIndex?.isSome) ∧
    ((Enumerated.all : List Field).map fun f => (t.get f).smallIndex?).Nodup

instance (t : Table Field Value) : Decidable (Permutes t) :=
  decidable_of_iff
    ((∀ f ∈ (Enumerated.all : List Field), (t.get f).smallIndex?.isSome) ∧
      ((Enumerated.all : List Field).map fun f => (t.get f).smallIndex?).Nodup)
    ⟨fun h => ⟨fun f => h.1 f (Enumerated.mem_all f), h.2⟩, fun h => ⟨fun f _ => h.1 f, h.2⟩⟩

/-- The places of the fields of an instruction, each written as some value equal to 0, 1 or 2. -/
structure Layout where
  table : Table Field Value
  permutes : Permutes table

namespace Layout

/-- The place of a field. -/
def place (l : Layout) (f : Field) : Fin 3 := (l.table.get f).smallIndex?.get (l.permutes.1 f)

/-- Whether every place is written as a whole number or a truth value, and so can select a byte. -/
def isWhole (l : Layout) : Bool :=
  (Enumerated.all : List Field).all fun f =>
    match l.table.get f with
    | .float _ => false
    | _ => true

end Layout

/-- The encoding of a machine. -/
structure Bindings where
  registers : Table Register UInt8
  flags : Table Flag UInt8
  syscalls : Table Syscall UInt8
  opcodes : Table Mnemonic UInt8
  layout : Layout
  registers_distinct : registers.Distinct
  registers_single : ∀ r, SingleBit (registers.get r)
  syscalls_distinct : syscalls.Distinct
  opcodes_distinct : opcodes.Distinct

namespace Bindings

/-! ## From bytes to names -/

/-- The register bound to `v`. -/
def boundRegister? (b : Bindings) (v : Int) : Option Register :=
  b.registers.firstWith? fun x => byteValue x == v

/-- The mnemonic bound to `v`. -/
def boundMnemonic? (b : Bindings) (v : Int) : Option Mnemonic :=
  b.opcodes.firstWith? fun x => byteValue x == v

/-- The system call bound to `v`. -/
def boundSyscall? (b : Bindings) (v : Int) : Option Syscall :=
  b.syscalls.firstWith? fun x => byteValue x == v

/-- The register bound to `v`; zero stands for a missing one. -/
def registerFor (b : Bindings) (v : Int) : Except Fault Operand :=
  if v = 0 then .ok none
  else
    match b.boundRegister? v with
    | some r => .ok (some r)
    | none => .error (.binding (.unboundRegister v))

/-- The mnemonic bound to `v`. -/
def mnemonicFor (b : Bindings) (v : Int) : Except Fault Mnemonic :=
  match b.boundMnemonic? v with
  | some m => .ok m
  | none => .error (.binding (.unboundOpcode v))

/-- The flags that a mask selects, in the order of their listing. A mask is any integer, of which
the eight low bits count. -/
def flagsOf (b : Bindings) (mask : Int) : List Flag :=
  (Enumerated.all : List Flag).filter fun f => (b.flags.get f &&& UInt8.ofInt mask) != 0

/-! ## Storage cells of registers -/

/-- The position of the bit of a register. -/
def slot (b : Bindings) (r : Register) : Nat := (b.registers.get r).toNat.log2

/-- One more than the highest slot. -/
@[irreducible] def slotCount (b : Bindings) : Nat :=
  ((Enumerated.all : List Register).map b.slot).foldl max 0 + 1

theorem le_foldl_max (l : List Nat) (n m : Nat) (h : m ≤ n ∨ m ∈ l) : m ≤ l.foldl max n := by
  induction l generalizing n with
  | nil => simpa using h
  | cons x xs ih =>
    apply ih
    rcases h with h | h
    · left; omega
    · rcases List.mem_cons.1 h with rfl | h
      · left; omega
      · right; exact h

theorem slot_lt_slotCount (b : Bindings) (r : Register) : b.slot r < b.slotCount := by
  have h := le_foldl_max ((Enumerated.all : List Register).map b.slot) 0 (b.slot r)
    (.inr (List.mem_map_of_mem (Enumerated.mem_all r)))
  unfold slotCount
  omega

/-! ## Equality -/

/-- The entries of a table sorted by name, as values. -/
def sortedEntries {α : Type} [Enumerated α] (t : Table α Value) : List (String × Value) :=
  (t.entries.map fun e => (Enumerated.name e.1, e.2)).mergeSort fun x y => decide (x.1 ≤ y.1)

/-- A byte as a value. -/
def byteAsValue (x : UInt8) : Value := .int (byteValue x)

/-- All tables with their entries sorted by name: two encodings that agree have equal ones. -/
def sortedTables (b : Bindings) : List (List (String × Value)) :=
  [sortedEntries (b.registers.map fun _ => byteAsValue),
   sortedEntries (b.flags.map fun _ => byteAsValue),
   sortedEntries (b.syscalls.map fun _ => byteAsValue),
   sortedEntries (b.opcodes.map fun _ => byteAsValue),
   sortedEntries b.layout.table]

/-- Whether two lists of entries have equal names and equal values, place by place. -/
def sameEntries (xs ys : List (String × Value)) : Bool :=
  xs.length == ys.length && (xs.zip ys).all fun p => p.1.1 == p.2.1 && p.1.2.same p.2.2

/-- Whether the sorted tables of two encodings are equal, place by place. -/
def sameSortedTables (x y : Bindings) : Bool :=
  (x.sortedTables.zip y.sortedTables).all fun p => sameEntries p.1 p.2

/-- Whether two encodings bind every name to equal values, in whatever order they list them. -/
def agrees (x y : Bindings) : Bool :=
  (Enumerated.all : List Register).all (fun r => x.registers.get r == y.registers.get r) &&
  (Enumerated.all : List Flag).all (fun f => x.flags.get f == y.flags.get f) &&
  (Enumerated.all : List Syscall).all (fun s => x.syscalls.get s == y.syscalls.get s) &&
  (Enumerated.all : List Mnemonic).all (fun m => x.opcodes.get m == y.opcodes.get m) &&
  (Enumerated.all : List Field).all fun f => (x.layout.table.get f).same (y.layout.table.get f)

end Bindings

end Yan85
