import Yan85.Fault
import Yan85.Register

/-! # Instructions

* `Instruction`: the eight kinds, and `bare`, which is of no kind and does nothing.
* `Operand`: a register or none. Only the two operands of `stk` may be none where code is run.
* `IsProper`: of one of the eight kinds, with a register wherever one is needed.
* `imm?`, `jmp?`, `sys?`: instructions with an integer for their immediate; one that is no byte is
  refused.
-/

namespace Yan85
set_option autoImplicit false

/-- A register operand, which may be missing. -/
abbrev Operand := Option Register

/-- An instruction with its operands. -/
inductive Instruction
  | imm (dst : Operand) (value : UInt8)
  | add (dst src : Operand)
  | stk (popTo pushFrom : Operand)
  | stm (address value : Operand)
  | ldm (dst address : Operand)
  | cmp (left right : Operand)
  | jmp (condition : UInt8) (target : Operand)
  | sys (number : UInt8) (result : Operand)
  | bare
  deriving DecidableEq, Repr, Inhabited

namespace Instruction

/-- The kind of an instruction. -/
def mnemonic? : Instruction → Option Mnemonic
  | imm .. => some .imm
  | add .. => some .add
  | stk .. => some .stk
  | stm .. => some .stm
  | ldm .. => some .ldm
  | cmp .. => some .cmp
  | jmp .. => some .jmp
  | sys .. => some .sys
  | bare => none

/-- Whether an instruction is of one of the eight kinds. -/
def HasKind (i : Instruction) : Prop := i ≠ bare

instance (i : Instruction) : Decidable i.HasKind := inferInstanceAs (Decidable (i ≠ bare))

/-- Whether an instruction has a register wherever running it needs one. -/
def isProper : Instruction → Bool
  | imm dst _ => dst.isSome
  | add dst src => dst.isSome && src.isSome
  | stk _ _ => true
  | stm address value => address.isSome && value.isSome
  | ldm dst address => dst.isSome && address.isSome
  | cmp left right => left.isSome && right.isSome
  | jmp _ target => target.isSome
  | sys _ result => result.isSome
  | bare => false

/-- Of one of the eight kinds, with a register wherever running it needs one. -/
def IsProper (i : Instruction) : Prop := i.isProper = true

instance (i : Instruction) : Decidable i.IsProper := inferInstanceAs (Decidable (_ = true))

/-! ## Immediates from the integers -/

/-- An integer as the immediate of an instruction. -/
def immediate? (m : Mnemonic) (field : String) (v : Int) : Except Fault UInt8 :=
  match byte? v with
  | some x => .ok x
  | none => .error (.notImmediate m field v)

def imm? (dst : Operand) (v : Int) : Except Fault Instruction :=
  (immediate? .imm "value" v).map fun x => imm dst x

def jmp? (v : Int) (target : Operand) : Except Fault Instruction :=
  (immediate? .jmp "condition" v).map fun x => jmp x target

def sys? (v : Int) (result : Operand) : Except Fault Instruction :=
  (immediate? .sys "syscall" v).map fun x => sys x result

end Instruction

end Yan85
