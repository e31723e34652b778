import Yan85.Bindings.Basic
import Yan85.Text.Hex

/-! # Instructions as texts

* `Instruction.text`: an instruction with the names of its registers, flags and system call.
* `listing`: a program with the index of every instruction.
-/

namespace Yan85
set_option autoImplicit false

open Yan85.Text

/-- The letter of a register, or a word for a missing one. -/
def operandText : Operand → String
  | some r => Enumerated.name r
  | none => "NONE"

/-- The letters of the flags that a condition selects, or a dash. Bits that belong to no flag are not
shown. -/
def conditionText (b : Bindings) (mask : UInt8) : String :=
  let flags := b.flagsOf (byteValue mask)
  if flags = [] then "-" else String.join (flags.map Enumerated.name)

/-- The name of a system call, or its number if it has none. -/
def syscallText (b : Bindings) (number : UInt8) : String :=
  match b.boundSyscall? (byteValue number) with
  | some s => Enumerated.name s
  | none => Hex.padded (byteValue number)

/-- The text of an instruction. -/
def Instruction.text (b : Bindings) : Instruction → String
  | imm dst value => "IMM " ++ operandText dst ++ " = " ++ Hex.padded (byteValue value)
  | add dst src => "ADD " ++ operandText dst ++ " " ++ operandText src
  | cmp left right => "CMP " ++ operandText left ++ " " ++ operandText right
  | stk popTo pushFrom => "STK " ++ operandText popTo ++ " " ++ operandText pushFrom
  | stm address value => "STM *" ++ operandText address ++ " = " ++ operandText value
  | ldm dst address => "LDM " ++ operandText dst ++ " = *" ++ operandText address
  | jmp condition target => "JMP " ++ conditionText b condition ++ " " ++ operandText target
  | sys number result => "SYS " ++ syscallText b number ++ " " ++ operandText result
  | bare => "Instruction()"

/-- A program as texts, each with its index. -/
def listing (b : Bindings) (program : List Instruction) : List (Nat × String) :=
  program.mapIdx fun n i => (n, i.text b)

end Yan85
