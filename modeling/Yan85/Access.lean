/-! # Records of accesses to memory

Each access of a program to a cell is recorded with the space it went to, the address, the byte and
its direction.
-/

namespace Yan85
set_option autoImplicit false

/-- The two address spaces. -/
inductive Space
  | main | stack
  deriving DecidableEq, Repr, Inhabited

/-- The name of a space in messages and records. -/
def Space.name : Space → String
  | main => "memory"
  | stack => "stack"

/-- The name of a space at the start of a message. -/
def Space.title : Space → String
  | main => "Memory"
  | stack => "Stack"

/-- The direction of an access. -/
inductive Direction
  | read | write
  deriving DecidableEq, Repr, Inhabited

def Direction.name : Direction → String
  | read => "READ"
  | write => "WRITE"

/-- One access to one cell. -/
structure Access where
  space : Space
  address : Nat
  data : UInt8
  direction : Direction
  deriving DecidableEq, Repr, Inhabited

end Yan85
