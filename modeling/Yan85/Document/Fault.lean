import Yan85.Calendar
import Yan85.Text.Quoted

/-! # What can be wrong with a document

* `malformed`: the text is no document, or its content cannot be built.
* The other causes come from single scalars: a number, a date or a character that does not exist.
-/

namespace Yan85
set_option autoImplicit false

/-- Why a byte string gives no document value. -/
inductive DocumentFault
  | notText
  | malformed
  | noCharacter
  | noInteger (base : Nat) (text : Text)
  | longInteger (digits : Nat)
  | noFloat (text : Text)
  | calendar (f : CalendarFault)
  | mappingAsTime
  deriving DecidableEq, Repr

namespace DocumentFault

open Yan85.Text

/-- The most code points of a quoted text that a message about a number shows. -/
def shownLength : Nat := 200

def message : DocumentFault → String
  | notText => "not well-formed text"
  | malformed => "not a document"
  | noCharacter => "chr() arg not in range(0x110000)"
  | noInteger base text =>
    "invalid literal for int() with base " ++ toString base ++ ": " ++
      String.ofList ((Quoted.ofText text).toList.take shownLength)
  | longInteger digits =>
    "Exceeds the limit (4300 digits) for integer string conversion: value has " ++
      toString digits ++ " digits; use sys.set_int_max_str_digits() to increase the limit"
  | noFloat text => "could not convert string to float: " ++ Quoted.ofText text
  | calendar f => f.message
  | mappingAsTime => "a mapping stands where a time has to"

end DocumentFault

end Yan85
