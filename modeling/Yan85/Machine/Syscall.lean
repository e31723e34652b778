import Yan85.Codec
import Yan85.Machine.Basic

/-! # System calls

* `Machine.checkPlacement`, `Machine.writeCode`: where instructions may be put into a program.
* One action for each system call. Its arguments are integers; a program gives the bytes of `A`,
  `B` and `C`.
* `Machine.perform`: the action of each system call, with an equation for each. `Machine.dispatch`: the
  system call of a code.
* `Machine.close`: gives back the descriptors that the program opened, the latest first.
-/

namespace Yan85
set_option autoImplicit false

/-- The system call whose byte is `code`. -/
def Syscall.ofCode? (b : Bindings) (code : Int) : Option Syscall :=
  (Enumerated.all : List Syscall).find? fun s => byteValue (b.syscalls.get s) == code

/-- A program with `code` in place of what stands from `start` on. -/
def splice (program : List Instruction) (start : Nat) (code : List Instruction) :
    List Instruction :=
  program.take start ++ code ++ program.drop (start + code.length)

/-- The place that an integer means in a program of `length` instructions. A negative one counts from
the end, but not past the beginning. -/
def placeOf (length : Nat) (i : Int) : Nat := if i < 0 then (i + length).toNat else i.toNat

/-- A program with `code` in place of what stands between the places that `start` and the integer
behind the last one of `code` mean. -/
def spliceFrom (program : List Instruction) (start : Int) (code : List Instruction) :
    List Instruction :=
  let first := placeOf program.length start
  program.take first ++ code ++
    program.drop (max first (placeOf program.length (start + code.length)))

theorem spliceFrom_natCast (program : List Instruction) (start : Nat) (code : List Instruction) :
    spliceFrom program start code = splice program start code := by
  have hfirst : placeOf program.length start = start := if_neg (by omega)
  have hlast : placeOf program.length ((start : Int) + code.length) = start + code.length :=
    if_neg (by omega)
  simp only [spliceFrom, splice, hfirst, hlast, Nat.max_eq_right (Nat.le_add_right _ _)]

namespace Machine

variable {b : Bindings} {σ : Type}

/-! ## Changing the program -/

/-- Succeeds if `count` instructions can be put at `start`: behind no gap, and within what a byte
can address. -/
def checkPlacement (start count : Int) : Action (Machine b σ) Unit := fun m =>
  if (m.program.length : Int) < start ∨ (addressSpaceSize : Int) < start + count then
    (.error (.placementOutside count start m.program.length), m)
  else (.ok (), m)

/-- Puts `code` into the program from `start` on. -/
def writeCode (start : Int) (code : List Instruction) : Action (Machine b σ) Unit := do
  checkPlacement start code.length
  Action.modify fun m => { m with program := spliceFrom m.program start code }

/-! ## The calls -/

section Calls

variable (H : Host σ)

/-- Opens the file whose path stands in memory at `address`. A descriptor that is no byte is closed
again and refused. -/
def openFile (address : Int) : Action (Machine b σ) Int := do
  let path ← onMemory fun mem => mem.readString address
  let fd ← onHost (H.openFile path) (.openFailed path)
  if 0xFF < fd then
    onHost (H.close fd) .closeFailed
    Action.fail (.descriptorOverflow fd)
  else
    Action.modify fun m =>
      { m with descriptors := m.descriptors.insert fd path }.tell (.opened path fd)
    return fd

/-- Reads from the host. -/
def readHost (fd count : Int) : Action (Machine b σ) (List UInt8) :=
  onHost (H.read fd count) (.readFailed fd)

/-- Reads at most `count` instructions and puts them into the program from `start` on. -/
def readCode (fd start count : Int) : Action (Machine b σ) Int := do
  checkPlacement start count
  let data ← readHost H fd (count * instructionSize)
  let code ← Action.lift (decodeProgram b data)
  writeCode start code
  return code.length

/-- Reads at most `count` bytes into memory from `start` on. -/
def readMemory (fd start count : Int) : Action (Machine b σ) Int := do
  let m ← Action.state
  if (m.memory.size : Int) < start + count then Action.fail (.transferOutside count start)
  else
    let data ← readHost H fd count
    changeMemory fun mem => mem.writeRange start data
    return data.length

/-- Writes `count` bytes of memory from `start` on. -/
def writeHost (fd start count : Int) : Action (Machine b σ) Int := do
  let data ← onMemory fun mem => mem.readRange start count
  let n ← onHost (H.write fd data) (.writeFailed fd)
  return n

/-- Waits. -/
def sleep (seconds : Int) : Action (Machine b σ) Int :=
  match H.sleepRefusal seconds with
  | some f => Action.fail (.sleepRefused f)
  | none => do
    Action.modify fun m => { m with host := H.sleep seconds m.host }
    return 0

/-- The effect of a system call with its three arguments. -/
def perform (s : Syscall) (x y z : Int) : Action (Machine b σ) Int :=
  match s with
  | .openFile => openFile H x
  | .readCode => readCode H x y z
  | .readMemory => readMemory H x y z
  | .write => writeHost H x y z
  | .sleep => sleep H x
  | .exit => Action.fail (.halt x)

section Perform

variable (x y z : Int)

theorem perform_openFile :
    perform H .openFile x y z = (openFile H x : Action (Machine b σ) Int) := rfl

theorem perform_readCode :
    perform H .readCode x y z = (readCode H x y z : Action (Machine b σ) Int) := rfl

theorem perform_readMemory :
    perform H .readMemory x y z = (readMemory H x y z : Action (Machine b σ) Int) := rfl

theorem perform_write :
    perform H .write x y z = (writeHost H x y z : Action (Machine b σ) Int) := rfl

theorem perform_sleep : perform H .sleep x y z = (sleep H x : Action (Machine b σ) Int) := rfl

theorem perform_exit :
    perform H .exit x y z = (Action.fail (.halt x) : Action (Machine b σ) Int) := rfl

end Perform

/-- The system call of a code, with its three arguments. -/
def dispatch (code x y z : Int) : Action (Machine b σ) Int :=
  match Syscall.ofCode? b code with
  | none => Action.fail (.unsupportedSyscall code)
  | some s => do
    Action.modify fun m => m.tell (.called s x y z)
    perform H s x y z

/-! ## Giving descriptors back -/

/-- Gives back one descriptor. A refusal is told and otherwise ignored. -/
def closeOne (m : Machine b σ) (e : Nat × List UInt8) : Machine b σ :=
  let r := H.close e.1 m.host
  let m' := { m with host := r.2 }
  match r.1 with
  | .ok _ => m'
  | .error f => m'.tell (.notClosed e.1 e.2 f)

/-- Gives back all descriptors that the program opened, the latest first. -/
def close (m : Machine b σ) : Machine b σ :=
  { m.descriptors.entries.reverse.foldl (closeOne H) m with descriptors := .empty }

end Calls

end Machine

end Yan85
