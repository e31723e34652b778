import Yan85.Bindings.Names
import Yan85.Byte
import Yan85.Value.Compare
import Yan85.Value.Text
import Yan85.Text.Hex

/-! # What can be wrong with an encoding

* `BindingFault`: the causes.
* `message`: their wording.
* `ifWritable`: a fault whose message would have to write a whole number beyond the limit for
  decimal texts gives way to one that says so.
-/

namespace Yan85
set_option autoImplicit false

/-- A fault of an encoding, or of a lookup in it. -/
inductive BindingFault
  | missingEntries (sec : Section) (names : List String)
  | unknownEntries (sec : Section) (names : List String)
  | notByte (sec : Section) (name : String) (value : Value)
  | sharedByte (sec : Section) (name earlier : String) (value : UInt8)
  | notSingleBit (name : String) (value : UInt8)
  | notPermutation (entries : List (String × Value))
  | unordered
  | notMapping (kind : String)
  | sectionNotMapping (sec : Section) (kind : String)
  | notInteger (value : Value)
  | unboundRegister (v : Int)
  | unboundOpcode (v : Int)
  | unwritable

namespace BindingFault

open Yan85.Text

def message : BindingFault → String
  | missingEntries s names =>
    Enumerated.name s ++ ": missing entries " ++ ", ".intercalate names
  | unknownEntries s names =>
    Enumerated.name s ++ ": unknown entries " ++ ", ".intercalate names
  | notByte s name v =>
    Enumerated.name s ++ ": " ++ name ++ " = " ++ v.quoted ++ " is not a byte value"
  | sharedByte s name earlier x =>
    Enumerated.name s ++ ": " ++ name ++ " and " ++ earlier ++ " share the value " ++
      Hex.padded (byteValue x)
  | notSingleBit name x =>
    "registers: " ++ name ++ " = " ++ Hex.padded (byteValue x) ++ " is not a single bit"
  | notPermutation es =>
    "layout: " ++ (Value.map (es.map fun e => (.text (.ofString e.1), e.2))).quoted ++
      " is not a permutation of byte positions 0-2"
  | unordered => "values of a layout without an order"
  | notMapping kind => "constants must be a mapping, got " ++ kind
  | sectionNotMapping s kind => Enumerated.name s ++ ": expected a mapping, got " ++ kind
  | notInteger v => "Invalid integer format: " ++ v.display.plain
  | unboundRegister v => "no register is bound to " ++ Hex.padded v
  | unboundOpcode v => "no opcode is bound to " ++ Hex.padded v
  | unwritable =>
    "Exceeds the limit (4300 digits) for integer string conversion; " ++
      "use sys.set_int_max_str_digits() to increase the limit"

/-- The fault `f`, whose message shows `v`, unless `v` cannot be written. -/
def ifWritable (v : Value) (f : BindingFault) : BindingFault := if v.writable then f else unwritable

end BindingFault

end Yan85
