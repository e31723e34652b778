import Yan85.Action
import Yan85.Memory
import Yan85.RegisterFile

/-! # The stack

* `Stack`: a memory of its own, addressed by the register `S`, which points at the next free cell.
* `push`, `pop`: the stack grows upwards. A strict stack refuses to push at 255 and to pop at 0; a
  wrapping one takes `S` modulo 256.
-/

namespace Yan85
set_option autoImplicit false

/-- A memory addressed by the register `S`. -/
structure Stack where
  memory : Memory
  wraps : Bool
  deriving DecidableEq

namespace Stack

/-- A stack of 256 cells, all zero. -/
def fresh (wraps : Bool) : Stack := ⟨.ofSize .stack addressSpaceSize, wraps⟩

variable {b : Bindings}

/-- Puts `v` into the cell at `S` and then moves `S` up by one. -/
def push (v : Int) : Action (Stack × RegisterFile b) Unit := fun (st, rf) =>
  let pointer := rf.get .S
  if pointer = 0xFF ∧ st.wraps = false then (.error (.stackOverflow pointer), st, rf)
  else
    match st.memory.write (byteValue pointer) v with
    | .error f => (.error f, st, rf)
    | .ok m => (.ok (), { st with memory := m }, rf.set .S (pointer + 1))

/-- Moves `S` down by one and then takes the byte from the cell at `S`. -/
def pop : Action (Stack × RegisterFile b) UInt8 := fun (st, rf) =>
  let pointer := rf.get .S
  if pointer = 0 ∧ st.wraps = false then (.error .stackUnderflow, st, rf)
  else
    let rf' := rf.set .S (pointer - 1)
    match st.memory.read (byteValue (pointer - 1)) with
    | .error f => (.error f, st, rf')
    | .ok (x, m) => (.ok x, { st with memory := m }, rf')

end Stack

end Yan85
