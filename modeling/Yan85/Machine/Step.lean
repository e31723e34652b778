import Yan85.Listing
import Yan85.Machine.Execute

/-! # One step of a machine

* `Snapshot`: what one step did.
* `Machine.step`: fetches the instruction at `I`, moves `I` on, shows the instruction to the
  observer, carries it out and takes the snapshot. A step that fails still leaves the state at the
  point of failure.
-/

namespace Yan85
set_option autoImplicit false

/-- What one step did: the registers after it, the instruction and where it stood, the number of
steps so far, and the accesses to the main memory and then to the stack. -/
structure Snapshot where
  registers : List (Register × UInt8)
  instruction : Instruction
  text : String
  index : UInt8
  count : Nat
  accesses : List Access
  exitCode : Option Int

/-- Whether the step was the last one. -/
def Snapshot.halted (s : Snapshot) : Bool := s.exitCode.isSome

namespace Machine

variable {b : Bindings} {σ : Type}

/-- The instruction at `I`. -/
def fetch (m : Machine b σ) : Except Fault Instruction :=
  let counter := m.registers.get .I
  match m.program[counter.toNat]? with
  | some i => .ok i
  | none => .error (.counterOutside counter m.program.length)

/-- The machine with `I` moved on and the instruction `i` shown to the observer. -/
def advance (m : Machine b σ) (i : Instruction) : Machine b σ :=
  { m with
    registers := m.registers.set .I (m.registers.get .I + 1)
    observed := m.observed.push i }

/-- Ends the step of the instruction `i` at `index`: counts it, tells it, and takes its snapshot. -/
def conclude (index : UInt8) (i : Instruction) (exit : Option Int) (m : Machine b σ) :
    Snapshot × Machine b σ :=
  let text := i.text b
  let registers := m.registers.toList
  ({ registers, instruction := i, text, index, count := m.steps + 1, accesses := m.accesses,
     exitCode := exit },
   { m with steps := m.steps + 1 }.tell (.executed index text registers) |>.clearLogs)

/-- One step. After an exit every step fails with the code of the exit. -/
def step (H : Host σ) : Action (Machine b σ) Snapshot := fun m =>
  match m.exitCode with
  | some code => (.error (.halt code), m)
  | none =>
    let m0 := m.clearLogs
    match m0.fetch with
    | .error f => (.error f, m0)
    | .ok i =>
      let index := m0.registers.get .I
      match execute H i (m0.advance i) with
      | (.ok (), m1) =>
        let (s, m2) := conclude index i none m1
        (.ok s, m2)
      | (.error (.halt code), m1) =>
        let (s, m2) := conclude index i (some code) { m1 with exitCode := some code }
        (.ok s, m2)
      | (.error f, m1) => (.error f, m1)

/-- At most `n` steps, ended by the first one that fails. -/
def stepMany (H : Host σ) : Nat → Machine b σ → List (Except Fault Snapshot) × Machine b σ
  | 0, m => ([], m)
  | n + 1, m =>
    match step H m with
    | (.ok s, m') =>
      let (rs, m'') := stepMany H n m'
      (.ok s :: rs, m'')
    | (.error f, m') => ([.error f], m')

end Machine

end Yan85
