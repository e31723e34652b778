import Yan85.Action
import Yan85.Host.Basic
import Yan85.Stack

/-! # The state of a machine

* `Diagnostic`: what a machine tells about its progress.
* `Machine b σ`: program, registers, memory, stack and owned descriptors of a machine with the
  encoding `b`, the state of its host, and what an observer has seen.
* Actions on the parts of a machine.
-/

namespace Yan85
set_option autoImplicit false

/-- What a machine tells about its progress. -/
inductive Diagnostic
  /-- An instruction was executed. -/
  | executed (index : UInt8) (text : String) (registers : List (Register × UInt8))
  /-- A system call is about to be made. -/
  | called (s : Syscall) (a b c : Int)
  /-- A file was opened. -/
  | opened (path : List UInt8) (fd : Nat)
  /-- A descriptor could not be closed. -/
  | notClosed (fd : Nat) (path : List UInt8) (f : HostFailure)

/-- A machine with the encoding `b` on a host with states of type `σ`. -/
structure Machine (b : Bindings) (σ : Type) where
  program : List Instruction
  registers : RegisterFile b
  memory : Memory
  stack : Stack
  /-- The descriptors that the program opened, the earliest first, and their paths. -/
  descriptors : Ordered Nat (List UInt8)
  host : σ
  /-- The number of instructions executed without failure. -/
  steps : Nat
  /-- The code of the exit, once the program has asked for it. -/
  exitCode : Option Int
  /-- The instructions fetched, in order. -/
  observed : Array Instruction
  diagnostics : Array Diagnostic

namespace Machine

variable {b : Bindings} {σ α : Type}

/-- A machine before its first step. -/
def fresh (b : Bindings) (program : List Instruction) (memory : Memory) (wraps : Bool) (host : σ) :
    Machine b σ where
  program := program
  registers := .zero b
  memory := memory
  stack := .fresh wraps
  descriptors := .empty
  host := host
  steps := 0
  exitCode := none
  observed := .empty
  diagnostics := .empty

/-- Whether the program has exited. -/
def halted (m : Machine b σ) : Bool := m.exitCode.isSome

/-- The machine with one more diagnostic. -/
def tell (m : Machine b σ) (d : Diagnostic) : Machine b σ :=
  { m with diagnostics := m.diagnostics.push d }

/-- The machine with the records of its memories emptied. -/
def clearLogs (m : Machine b σ) : Machine b σ :=
  { m with
    memory := m.memory.takeLog.2
    stack := { m.stack with memory := m.stack.memory.takeLog.2 } }

/-- The recorded accesses, those to the main memory first. -/
def accesses (m : Machine b σ) : List Access := m.memory.log ++ m.stack.memory.log

/-! ## Actions on the parts of a machine -/

/-- The byte in the register of an operand. -/
def readOperand (o : Operand) : Action (Machine b σ) UInt8 := fun m => (m.registers.read o, m)

/-- Puts an integer into the register of an operand. -/
def writeOperand (o : Operand) (v : Int) : Action (Machine b σ) Unit := fun m =>
  match m.registers.write o v with
  | .ok rf => (.ok (), { m with registers := rf })
  | .error f => (.error f, m)

/-- An operation on the memory with a result. -/
def onMemory (op : Memory → Except Fault (α × Memory)) : Action (Machine b σ) α := fun m =>
  match op m.memory with
  | .ok (x, memory) => (.ok x, { m with memory := memory })
  | .error f => (.error f, m)

/-- An operation on the memory without a result. -/
def changeMemory (op : Memory → Except Fault Memory) : Action (Machine b σ) Unit := fun m =>
  match op m.memory with
  | .ok memory => (.ok (), { m with memory := memory })
  | .error f => (.error f, m)

/-- An operation on the stack and the registers. -/
def onStack (op : Action (Stack × RegisterFile b) α) : Action (Machine b σ) α :=
  Action.on (fun m => (m.stack, m.registers))
    (fun s m => { m with stack := s.1, registers := s.2 }) op

/-- A request to the host; a refusal becomes the fault that `blame` makes of it. -/
def onHost (request : σ → Except HostFailure α × σ) (blame : HostFailure → Fault) :
    Action (Machine b σ) α := fun m =>
  let r := request m.host
  (r.1.mapError blame, { m with host := r.2 })

end Machine

end Yan85
