import Yan85.Document.Cursor

/-! # The tokens of a document

* `Token`: the marks and scalars of a text, and the starts and ends of blocks that follow from the
  indentation. Text that is no token stands as one that says why.
-/

namespace Yan85.Document
set_option autoImplicit false

/-- A line that starts with a percent sign. -/
inductive Directive
  | version (major : Nat)
  | tagHandle (handle replacement : String)
  | other
  deriving DecidableEq, Repr

/-- A token of a document. -/
inductive Token
  | directive (d : Directive)
  | documentStart
  | documentEnd
  | blockSequenceStart
  | blockMappingStart
  | blockEnd
  | flowSequenceStart
  | flowSequenceEnd
  | flowMappingStart
  | flowMappingEnd
  | blockEntry
  | flowEntry
  | key
  | content
  | alias (name : String)
  | anchor (name : String)
  | tag (handle : Option String) (suffix : String)
  | scalar (text : Text) (plain : Bool)
  | unreadable (f : DocumentFault)
  deriving DecidableEq, Repr

end Yan85.Document
