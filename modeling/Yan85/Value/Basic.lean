import Yan85.Binary64.Basic
import Yan85.Calendar
import Yan85.Text.Basic

/-! # Values of documents

* `Value`: what a document can say, before anything is known about its meaning.
* `kind`: the name by which a message calls the type of a value.
* `isBlank`: the values that stand for an empty document.
-/

namespace Yan85
set_option autoImplicit false

/-- A value of a document. A `map` keeps its entries in order, one per key. `enclosing` stands
inside a collection for that collection itself, of which only the brackets can be shown. -/
inductive Value
  | null
  | bool (b : Bool)
  | int (i : Int)
  | float (x : Binary64)
  | text (s : Text)
  | bytes (data : List UInt8)
  | date (d : Date)
  | moment (t : Moment)
  | list (items : List Value)
  | pair (first second : Value)
  | set (items : List Value)
  | map (entries : List (Value × Value))
  | enclosing (brackets : String × String)
  deriving Inhabited

namespace Value

/-- The name by which a message calls the type of a value. -/
def kind : Value → String
  | null => "NoneType"
  | bool _ => "bool"
  | int _ => "int"
  | float _ => "float"
  | text _ => "str"
  | bytes _ => "bytes"
  | date _ => "date"
  | moment _ => "datetime"
  | list _ => "list"
  | pair _ _ => "tuple"
  | set _ => "set"
  | map _ => "dict"
  | enclosing b => if b.1 = "[" then "list" else "dict"

/-- Null, false, zero and whatever is empty. -/
def isBlank : Value → Bool
  | null => true
  | bool b => !b
  | int i => i == 0
  | float x => x.isZero
  | text s => s.isEmpty
  | bytes data => data.isEmpty
  | list items => items.isEmpty
  | set items => items.isEmpty
  | map entries => entries.isEmpty
  | _ => false

end Value

end Yan85
