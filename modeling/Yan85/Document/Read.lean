import Yan85.Bindings.Read
import Yan85.Document.Build
import Yan85.Document.Token.Layout

/-! # Documents as bytes

* `Reader`: what gives the content of the document in a byte string, and `Content.ofBytes`, which does
  so. No document gives null.
* `Bindings.ofContent`: the encoding that such a content describes, where a blank one leaves
  everything as it is by standard.
* `Bindings.ofBytes`: the encoding in a byte string, by any reader.
-/

namespace Yan85
set_option autoImplicit false

/-- What finds the content of the document in a byte string. -/
abbrev Document.Reader := List UInt8 → Except DocumentFault Document.Content

open Document in
/-- The content of the document in a byte string. -/
def Document.Content.ofBytes : Reader := fun data => do
  match ← Graph.ofTokens (Token.ofSource (.ofBytes data)) with
  | some g => Content.ofGraph g
  | none => return .absent

/-- Why a byte string describes no encoding. -/
inductive LoadFault
  | document (f : DocumentFault)
  | bindings (f : BindingFault)

namespace Bindings

open Document

/-- The encoding that the content of a document describes. -/
def ofContent (c : Content) : Except BindingFault Bindings :=
  if c.isBlank then ofValue (.map [])
  else do (← Tables.ofView c.view c.root).validate

/-- The encoding that a document describes. -/
def ofBytes (read : Reader) (data : List UInt8) : Except LoadFault Bindings :=
  match read data with
  | .ok c => (ofContent c).mapError .bindings
  | .error f => .error (.document f)

end Bindings

end Yan85
