import Yan85.Bindings.Basic

/-! # The standard encoding

The encoding of a machine about which nothing else is said.
-/

namespace Yan85.Bindings
set_option autoImplicit false

def standardRegisters : Table Register UInt8 :=
  ⟨⟨[(.A, 0x20), (.B, 0x40), (.C, 0x08), (.D, 0x02), (.S, 0x10), (.I, 0x04), (.F, 0x01)],
    by decide⟩, by intro a; cases a <;> decide⟩

def standardFlags : Table Flag UInt8 :=
  ⟨⟨[(.less, 0x08), (.greater, 0x01), (.equal, 0x04), (.bothZero, 0x02), (.unequal, 0x10)],
    by decide⟩, by intro a; cases a <;> decide⟩

def standardSyscalls : Table Syscall UInt8 :=
  ⟨⟨[(.openFile, 0x08), (.readCode, 0x01), (.readMemory, 0x10), (.write, 0x04), (.sleep, 0x02),
      (.exit, 0x20)],
    by decide⟩, by intro a; cases a <;> decide⟩

def standardOpcodes : Table Mnemonic UInt8 :=
  ⟨⟨[(.imm, 0x80), (.add, 0x08), (.stk, 0x40), (.stm, 0x20), (.ldm, 0x01), (.cmp, 0x04),
      (.jmp, 0x10), (.sys, 0x02)],
    by decide⟩, by intro a; cases a <;> decide⟩

def standardPlaces : Table Field Value :=
  ⟨⟨[(.op, .int 0), (.first, .int 1), (.second, .int 2)], by decide⟩,
    by intro a; cases a <;> decide⟩

/-- The standard encoding. -/
def standard : Bindings where
  registers := standardRegisters
  flags := standardFlags
  syscalls := standardSyscalls
  opcodes := standardOpcodes
  layout := ⟨standardPlaces, by decide⟩
  registers_distinct := by unfold Table.Distinct; decide
  registers_single r := by cases r <;> decide
  syscalls_distinct := by unfold Table.Distinct; decide
  opcodes_distinct := by unfold Table.Distinct; decide

end Yan85.Bindings
