import Yan85.Machine.Syscall

/-! # The effect of an instruction

* `comparisonFlags`: the flags of two compared bytes.
* `Machine.execute`: what each kind of instruction does, once `I` points behind it.
-/

namespace Yan85
set_option autoImplicit false

/-- The flags for comparing `x` with `y`. -/
def comparisonFlags (b : Bindings) (x y : UInt8) : UInt8 :=
  let f := b.flags.get
  let order :=
    if x < y then f .less ||| f .unequal
    else if y < x then f .greater ||| f .unequal
    else f .equal
  if x = 0 ∧ y = 0 then order ||| f .bothZero else order

namespace Machine

variable {b : Bindings} {σ : Type}

/-- Carries out an instruction. A `stk` pushes before it pops; a `sys` takes its arguments from
`A`, `B` and `C` whatever its result register is. -/
def execute (H : Host σ) : Instruction → Action (Machine b σ) Unit
  | .imm dst value => writeOperand dst (byteValue value)
  | .add dst src => do
    let x ← readOperand dst
    let y ← readOperand src
    writeOperand dst (byteValue (x + y))
  | .stk popTo pushFrom => do
    match pushFrom with
    | some r =>
      let x ← readOperand (some r)
      onStack (Stack.push (byteValue x))
    | none => pure ()
    match popTo with
    | some r =>
      let x ← onStack Stack.pop
      writeOperand (some r) (byteValue x)
    | none => pure ()
  | .stm address value => do
    let a ← readOperand address
    let x ← readOperand value
    changeMemory fun mem => mem.write (byteValue a) (byteValue x)
  | .ldm dst address => do
    let a ← readOperand address
    let x ← onMemory fun mem => mem.read (byteValue a)
    writeOperand dst (byteValue x)
  | .cmp left right => do
    let x ← readOperand left
    let y ← readOperand right
    writeOperand (some .F) (byteValue (comparisonFlags b x y))
  | .jmp condition target => do
    let flags ← readOperand (some .F)
    if flags &&& condition ≠ 0 then
      let x ← readOperand target
      writeOperand (some .I) (byteValue x)
    else pure ()
  | .sys number result => do
    let x ← readOperand (some .A)
    let y ← readOperand (some .B)
    let z ← readOperand (some .C)
    let v ← dispatch H (byteValue number) (byteValue x) (byteValue y) (byteValue z)
    writeOperand result v
  | .bare => Action.fail .notExecutable

end Machine

end Yan85
