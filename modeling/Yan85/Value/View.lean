import Yan85.Value.Basic

/-! # Looking at nested values

* `Opened`: what a reader of nested entries sees of a value.
* `View`: places in a nested value, with what can be seen there and the whole value there. A view
  may have a place inside of the same place; a value may not.
* `Value.view`: a value as a view, whose places are the values in it.
-/

namespace Yan85
set_option autoImplicit false

/-- A value as a reader of entries sees it: entries with their contents at further places, nothing,
or something else of which only the kind counts. -/
inductive Opened (ι : Type)
  | map (entries : List (Value × ι))
  | null
  | other (kind : String)

/-- The places of a nested value. -/
structure View (ι : Type) where
  opened : ι → Opened ι
  value : ι → Value

namespace Value

/-- What a reader of entries sees of a value. -/
def opened : Value → Opened Value
  | map entries => .map entries
  | null => .null
  | v => .other v.kind

/-- A value as a view. -/
def view : View Value := ⟨opened, id⟩

end Value

end Yan85
