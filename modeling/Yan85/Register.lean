import Yan85.Enumerated

/-! # The seven registers

`A`, `B`, `C` and `D` are general, `S` points into the stack, `I` at the next instruction, and `F`
holds the flags of the last comparison.
-/

namespace Yan85
set_option autoImplicit false

inductive Register
  | A | B | C | D | S | I | F
  deriving DecidableEq, Repr, Inhabited

namespace Register

/-- The letter of a register. -/
def letter : Register → String
  | A => "A"
  | B => "B"
  | C => "C"
  | D => "D"
  | S => "S"
  | I => "I"
  | F => "F"

instance : Enumerated Register where
  all := [A, B, C, D, S, I, F]
  name := letter
  mem_all a := by cases a <;> simp
  all_nodup := by decide
  name_injective a b := by cases a <;> cases b <;> simp [letter]

end Register

end Yan85
