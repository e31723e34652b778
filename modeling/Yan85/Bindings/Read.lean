import Yan85.Bindings.Validate
import Yan85.Text.CaseMap
import Yan85.Value.View

/-! # Encodings read from documents

* `integer?`: a whole number, or a text that writes one in decimal or behind `0x`.
* `Tables.ofView`, `Tables.ofValue`: the five tables in a map; an absent one, or one that is null,
  is the standard one. Names are read in any letter case.
* `Bindings.ofValue`: the encoding that a document value describes.
-/

namespace Yan85
set_option autoImplicit false

open Yan85.Text

namespace Tables

/-- Whether a text is to be read as a hexadecimal number. -/
def hasHexMark (s : Text) : Bool := s.startsWith "0x" || s.startsWith "0X"

/-- The whole number that a value is or writes. -/
def integer? : Value → Except BindingFault Int
  | .int i => .ok i
  | .text s =>
    match IntegerLiteral.read (if hasHexMark s then 16 else 10) s.chars with
    | .ok i => .ok i
    | .error _ => .error (.notInteger (.text s))
  | v => .error (.ifWritable v (.notInteger v))

/-- The letter case in which the names of a table are written. -/
def properCase : Section → Text → Text
  | .layout => lower
  | _ => upper

section View
variable {ι : Type} (w : View ι)

/-- One entry of a table: its name in proper case and its number. -/
def readEntry (sec : Section) (e : Value × ι) : Except BindingFault (String × Value) := do
  if e.1.writable then
    let i ← integer? (w.value e.2)
    return ((properCase sec e.1.display).plain, .int i)
  else throw .unwritable

/-- The place of the content under a text key. -/
def contentOf (entries : List (Value × ι)) (key : String) : Option ι :=
  (entries.find? fun e => e.1.same (.text (.ofString key))).map (·.2)

/-- A table out of the entries of a document. -/
def sectionOf (entries : List (Value × ι)) (sec : Section) (standard : Ordered String Value) :
    Except BindingFault (Ordered String Value) :=
  match (contentOf entries (Enumerated.name sec)).map w.opened with
  | none => .ok standard
  | some .null => .ok standard
  | some (.map es) => do return Ordered.ofList (← es.mapM (readEntry w sec))
  | some (.other kind) => .error (.sectionNotMapping sec kind)

/-- The five tables that the value at a place gives. -/
def ofView (i : ι) : Except BindingFault Tables :=
  match w.opened i with
  | .map entries => do
    let std := Bindings.standard.toTables
    return {
      registers := ← sectionOf w entries .registers std.registers
      flags := ← sectionOf w entries .flags std.flags
      syscalls := ← sectionOf w entries .syscalls std.syscalls
      opcodes := ← sectionOf w entries .opcodes std.opcodes
      layout := ← sectionOf w entries .layout std.layout }
  | .null => .error (.notMapping Value.null.kind)
  | .other kind => .error (.notMapping kind)

end View

/-- The five tables that a value gives. -/
def ofValue (v : Value) : Except BindingFault Tables := ofView Value.view v

end Tables

/-- The encoding that a document value describes. -/
def Bindings.ofValue (v : Value) : Except BindingFault Bindings := do
  (← Tables.ofValue v).validate

end Yan85
