import Yan85.Enumerated

/-! # The names that a machine's encoding binds

* `Flag`, `Syscall`, `Mnemonic`: what a byte of code or of the flag register can mean.
* `Field`: the three bytes of an instruction.
* `Section`: the tables of an encoding.
-/

namespace Yan85
set_option autoImplicit false

/-- A result of a comparison. -/
inductive Flag
  | less | greater | equal | bothZero | unequal
  deriving DecidableEq, Repr, Inhabited

/-- A request to the host. -/
inductive Syscall
  | openFile | readCode | readMemory | write | sleep | exit
  deriving DecidableEq, Repr, Inhabited

/-- A kind of instruction. -/
inductive Mnemonic
  | imm | add | stk | stm | ldm | cmp | jmp | sys
  deriving DecidableEq, Repr, Inhabited

/-- A byte of an instruction: the operation or one of its two operands. -/
inductive Field
  | op | first | second
  deriving DecidableEq, Repr, Inhabited

/-- A table of an encoding. -/
inductive Section
  | registers | flags | syscalls | opcodes | layout
  deriving DecidableEq, Repr, Inhabited

instance : Enumerated Flag where
  all := [.less, .greater, .equal, .bothZero, .unequal]
  name
    | .less => "L"
    | .greater => "G"
    | .equal => "E"
    | .bothZero => "Z"
    | .unequal => "N"
  mem_all a := by cases a <;> simp
  all_nodup := by decide
  name_injective a b := by cases a <;> cases b <;> simp

instance : Enumerated Syscall where
  all := [.openFile, .readCode, .readMemory, .write, .sleep, .exit]
  name
    | .openFile => "OPEN"
    | .readCode => "READ_CODE"
    | .readMemory => "READ_MEMORY"
    | .write => "WRITE"
    | .sleep => "SLEEP"
    | .exit => "EXIT"
  mem_all a := by cases a <;> simp
  all_nodup := by decide
  name_injective a b := by cases a <;> cases b <;> simp

instance : Enumerated Mnemonic where
  all := [.imm, .add, .stk, .stm, .ldm, .cmp, .jmp, .sys]
  name
    | .imm => "IMM"
    | .add => "ADD"
    | .stk => "STK"
    | .stm => "STM"
    | .ldm => "LDM"
    | .cmp => "CMP"
    | .jmp => "JMP"
    | .sys => "SYS"
  mem_all a := by cases a <;> simp
  all_nodup := by decide
  name_injective a b := by cases a <;> cases b <;> simp

instance : Enumerated Field where
  all := [.op, .first, .second]
  name
    | .op => "op"
    | .first => "a"
    | .second => "b"
  mem_all a := by cases a <;> simp
  all_nodup := by decide
  name_injective a b := by cases a <;> cases b <;> simp

instance : Enumerated Section where
  all := [.registers, .flags, .syscalls, .opcodes, .layout]
  name
    | .registers => "registers"
    | .flags => "flags"
    | .syscalls => "syscalls"
    | .opcodes => "opcodes"
    | .layout => "layout"
  mem_all a := by cases a <;> simp
  all_nodup := by decide
  name_injective a b := by cases a <;> cases b <;> simp

end Yan85
