import Yan85.Bindings.Basic

/-! # Code as bytes

* `decodeInstruction`, `decodeProgram`: three bytes as an instruction, a byte string as a program.
* `encodeInstruction`, `encodeProgram`: the way back.
* The layout of the encoding says which of the three bytes is the operation and which are the
  operands; the byte zero stands for a missing register.
-/

namespace Yan85
set_option autoImplicit false

/-- The number of bytes of an instruction. -/
def instructionSize : Nat := 3

/-! ## Decoding -/

/-- The operand that a byte stands for. -/
def decodeOperand (b : Bindings) (x : UInt8) : Except Fault Operand :=
  if x = 0 then .ok none
  else
    match b.boundRegister? (byteValue x) with
    | some r => .ok (some r)
    | none => .error (.unboundOperand x)

/-- The register that a byte stands for, where one is needed. -/
def decodeRegister (b : Bindings) (m : Mnemonic) (x : UInt8) : Except Fault Operand := do
  match ← decodeOperand b x with
  | some r => return some r
  | none => throw (.missingOperand m)

/-- The instruction with the given kind and operand bytes. -/
def decodeFields (b : Bindings) (m : Mnemonic) (x y : UInt8) : Except Fault Instruction :=
  match m with
  | .imm => return .imm (← decodeRegister b m x) y
  | .add => return .add (← decodeRegister b m x) (← decodeRegister b m y)
  | .stk => return .stk (← decodeOperand b x) (← decodeOperand b y)
  | .stm => return .stm (← decodeRegister b m x) (← decodeRegister b m y)
  | .ldm => return .ldm (← decodeRegister b m x) (← decodeRegister b m y)
  | .cmp => return .cmp (← decodeRegister b m x) (← decodeRegister b m y)
  | .jmp => return .jmp x (← decodeRegister b m y)
  | .sys => return .sys x (← decodeRegister b m y)

/-- The byte of a field among the three bytes of an instruction. -/
def fieldByte (b : Bindings) (x y z : UInt8) (f : Field) : UInt8 :=
  match b.layout.place f with
  | 0 => x
  | 1 => y
  | 2 => z

/-- The instruction that three bytes stand for. -/
def decodeTriple (b : Bindings) (x y z : UInt8) : Except Fault Instruction :=
  if b.layout.isWhole then
    let op := fieldByte b x y z .op
    match b.boundMnemonic? (byteValue op) with
    | some m => decodeFields b m (fieldByte b x y z .first) (fieldByte b x y z .second)
    | none => .error (.unknownOpcode op [x, y, z])
  else .error .fractionalPlace

/-- The instruction that a byte string stands for. -/
def decodeInstruction (b : Bindings) : List UInt8 → Except Fault Instruction
  | [x, y, z] => decodeTriple b x y z
  | raw => .error (.instructionLength raw.length)

/-- The instructions of a byte string, three bytes each; one or two bytes at the end are left. -/
def decodeTriples (b : Bindings) : List UInt8 → Except Fault (List Instruction)
  | x :: y :: z :: rest => do
    let i ← decodeTriple b x y z
    return i :: (← decodeTriples b rest)
  | _ => .ok []

/-- The program that a byte string stands for. -/
def decodeProgram (b : Bindings) (data : List UInt8) : Except Fault (List Instruction) :=
  if data.length % instructionSize = 0 then decodeTriples b data
  else .error (.programLength data.length)

/-! ## Encoding -/

/-- The byte of an operand. -/
def encodeOperand (b : Bindings) : Operand → UInt8
  | some r => b.registers.get r
  | none => 0

/-- The kind and the two operand bytes of an instruction. -/
def encodeFields (b : Bindings) : Instruction → Option (Mnemonic × UInt8 × UInt8)
  | .imm dst value => some (.imm, encodeOperand b dst, value)
  | .add dst src => some (.add, encodeOperand b dst, encodeOperand b src)
  | .stk popTo pushFrom => some (.stk, encodeOperand b popTo, encodeOperand b pushFrom)
  | .stm address value => some (.stm, encodeOperand b address, encodeOperand b value)
  | .ldm dst address => some (.ldm, encodeOperand b dst, encodeOperand b address)
  | .cmp left right => some (.cmp, encodeOperand b left, encodeOperand b right)
  | .jmp condition target => some (.jmp, condition, encodeOperand b target)
  | .sys number result => some (.sys, number, encodeOperand b result)
  | .bare => none

/-- Three bytes of which each field has its own at its place. -/
def placeFields (b : Bindings) (op x y : UInt8) : List UInt8 :=
  (((List.replicate instructionSize 0).set (b.layout.place .op) op).set
    (b.layout.place .first) x).set (b.layout.place .second) y

/-- The three bytes of an instruction. -/
def encodeInstruction (b : Bindings) (i : Instruction) : Except Fault (List UInt8) :=
  match encodeFields b i with
  | none => .error .notEncodable
  | some (m, x, y) =>
    if b.layout.isWhole then .ok (placeFields b (b.opcodes.get m) x y)
    else .error .fractionalPlace

/-- The bytes of a program. -/
def encodeProgram (b : Bindings) (program : List Instruction) : Except Fault (List UInt8) := do
  return (← program.mapM (encodeInstruction b)).flatten

end Yan85
