import Yan85.Access
import Yan85.Bindings.Fault
import Yan85.Text.Utf8

/-! # What can go wrong with code and machines

* `HostFailure`: a refusal of the host, with its number and its reason. `SleepFailure`: its refusal
  to wait.
* `Fault`: the causes of failure, and `halt`, the end that a program itself asks for.
* `Fault.kind`, `Fault.message`: the class and the wording of a cause.
-/

namespace Yan85
set_option autoImplicit false

/-- A refusal of the host. -/
structure HostFailure where
  number : Int
  reason : String
  deriving DecidableEq, Repr, Inhabited

/-- A refusal by itself, with its number in brackets. -/
def HostFailure.message (f : HostFailure) : String :=
  "[Errno " ++ toString f.number ++ "] " ++ f.reason

/-- A refusal of the host to wait for a number of seconds, which is too many for its clock or no
length of time, with its reason. -/
structure SleepFailure where
  isTooLong : Bool
  reason : String
  deriving DecidableEq, Repr

/-- The size of a memory as a message shows it. -/
structure Extent where
  space : Space
  size : Nat
  /-- The size was given as the truth value `true` and is shown so. -/
  asTruth : Bool
  deriving DecidableEq, Repr, Inhabited

/-- Why an operation failed. -/
inductive Fault
  | binding (f : BindingFault)
  | fractionalPlace
  | instructionLength (n : Nat)
  | programLength (n : Nat)
  | unknownOpcode (op : UInt8) (raw : List UInt8)
  | unboundOperand (x : UInt8)
  | missingOperand (m : Mnemonic)
  | notEncodable
  | notExecutable
  | notImmediate (m : Mnemonic) (field : String) (v : Int)
  | noOperand
  | notRegisterValue (v : Int)
  | notCellValue (v : Int)
  | badSize (space : Space)
  | addressOutside (address : Int) (extent : Extent)
  | rangeOutside (start length : Int) (extent : Extent)
  | placementOutside (count start : Int) (length : Nat)
  | transferOutside (count start : Int)
  | stackOverflow (pointer : UInt8)
  | stackUnderflow
  | unsupportedSyscall (code : Int)
  | descriptorOverflow (fd : Nat)
  | openFailed (path : List UInt8) (f : HostFailure)
  | readFailed (fd : Int) (f : HostFailure)
  | writeFailed (fd : Int) (f : HostFailure)
  | closeFailed (f : HostFailure)
  | sleepRefused (f : SleepFailure)
  | counterOutside (counter : UInt8) (length : Nat)
  | stepLimit (limit : Int)
  | halt (code : Int)

/-- The classes of causes. -/
inductive FaultKind
  | decode | constants | outOfBounds | stackOverflow | stackUnderflow | invalidOperand
  | unsupportedSyscall | descriptorOverflow | hostIo | counterOutside | stepLimit
  | halt | value | type | overflow | system
  deriving DecidableEq, Repr, Inhabited

/-- The name of a class of causes. -/
def FaultKind.name : FaultKind → String
  | decode => "DecodeError"
  | constants => "ConstantsError"
  | outOfBounds => "OutOfBounds"
  | stackOverflow => "StackOverflow"
  | stackUnderflow => "StackUnderflow"
  | invalidOperand => "InvalidOperand"
  | unsupportedSyscall => "UnsupportedSyscall"
  | descriptorOverflow => "FileDescriptorOverflow"
  | hostIo => "HostIoError"
  | counterOutside => "ProgramCounterOutOfRange"
  | stepLimit => "StepLimitExceeded"
  | halt => "halt"
  | value => "value"
  | type => "type"
  | overflow => "overflow"
  | system => "system"

/-- Whether a cause of this class is a failure of the machine, which is reported as such. -/
def FaultKind.isMachineFailure : FaultKind → Bool
  | halt | value | type | overflow | system => false
  | _ => true

def BindingFault.kind : BindingFault → FaultKind
  | unordered => .type
  | unwritable => .value
  | _ => .constants

namespace Fault

open Yan85.Text

def kind : Fault → FaultKind
  | binding f => f.kind
  | fractionalPlace => .type
  | instructionLength _ | programLength _ | unknownOpcode .. | unboundOperand _
  | missingOperand _ | notEncodable | notExecutable => .decode
  | notImmediate .. | noOperand | notRegisterValue _ => .invalidOperand
  | notCellValue _ | badSize _ => .value
  | addressOutside .. | rangeOutside .. | placementOutside .. | transferOutside .. => .outOfBounds
  | stackOverflow _ => .stackOverflow
  | stackUnderflow => .stackUnderflow
  | unsupportedSyscall _ => .unsupportedSyscall
  | descriptorOverflow _ => .descriptorOverflow
  | openFailed .. | readFailed .. | writeFailed .. => .hostIo
  | closeFailed _ => .system
  | sleepRefused f => if f.isTooLong then .overflow else .value
  | counterOutside .. => .counterOutside
  | stepLimit _ => .stepLimit
  | halt _ => .halt

theorem kind_sleepRefused (f : SleepFailure) :
    (sleepRefused f).kind = .overflow ∨ (sleepRefused f).kind = .value := by
  cases hf : f.isTooLong <;> simp [kind, hf]

/-- The number of the refusal of the host that caused a failed transfer. -/
def hostNumber? : Fault → Option Int
  | openFailed _ f | readFailed _ f | writeFailed _ f => some f.number
  | _ => none

/-- A space and its size, as the end of a message. -/
def extentText (e : Extent) : String :=
  e.space.name ++ " of size " ++ (if e.asTruth then "True" else toString e.size) ++ "."

/-- A path in quotes; bytes that are not well formed stand as escapes. -/
def pathText (path : List UInt8) : String := Quoted.ofCodePoints (Utf8.codePoints path)

def message : Fault → String
  | binding f => f.message
  | fractionalPlace => "a place of the layout is not a whole number"
  | instructionLength n => "an instruction is 3 bytes, got " ++ toString n
  | programLength n =>
    "program length " ++ toString n ++ " is not a multiple of the instruction size (3)"
  | unknownOpcode op raw =>
    "unknown opcode " ++ Hex.padded (byteValue op) ++ " in " ++ Hex.ofBytes raw
  | unboundOperand x => (BindingFault.unboundRegister (byteValue x)).message
  | missingOperand m => Enumerated.name m ++ ": register operand is required"
  | notEncodable => "cannot encode Instruction()"
  | notExecutable => "no executor for instruction Instruction()"
  | notImmediate m field v =>
    Enumerated.name m ++ " " ++ field ++ " must be a byte value, got " ++ toString v
  | noOperand => "a real register is required, got no operand"
  | notRegisterValue v => "Data " ++ toString v ++ " is not an 8-bit value."
  | notCellValue v => "Data " ++ toString v ++ " is not an 8-bit value."
  | badSize space => space.title ++ " size must be a positive integer."
  | addressOutside address e =>
    "Address " ++ toString address ++ " out of bounds for " ++ extentText e
  | rangeOutside start length e =>
    "Range " ++ Hex.padded start ++ "+" ++ toString length ++ " out of bounds for " ++ extentText e
  | placementOutside count start length =>
    "cannot place " ++ toString count ++ " instructions at " ++ Hex.padded start ++
      " in a program of " ++ toString length ++ " instructions"
  | transferOutside count start =>
    "read of " ++ toString count ++ " bytes at " ++ Hex.padded start ++ " exceeds memory"
  | stackOverflow p =>
    "push with stack pointer at " ++ Hex.padded (byteValue p) ++ " would overflow the stack"
  | stackUnderflow => "pop with an empty stack"
  | unsupportedSyscall code => "unsupported syscall: " ++ Hex.padded code
  | descriptorOverflow fd => "host file descriptor " ++ toString fd ++ " does not fit in a byte"
  | openFailed path f => "open(" ++ pathText path ++ ") failed: " ++ f.reason
  | readFailed fd f => "read from fd " ++ toString fd ++ " failed: " ++ f.reason
  | writeFailed fd f => "write to fd " ++ toString fd ++ " failed: " ++ f.reason
  | closeFailed f => f.message
  | sleepRefused f => f.reason
  | counterOutside counter length =>
    "instruction pointer " ++ Hex.padded (byteValue counter) ++ " is outside the program (" ++
      toString length ++ " instructions)"
  | stepLimit limit => "program did not halt within " ++ toString limit ++ " steps"
  | halt code => "program halted with exit code " ++ toString code

end Fault

end Yan85
