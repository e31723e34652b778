import Yan85.Document.Token.Quoted
import Yan85.Text.IntegerLiteral
import Yan85.Text.Utf8

/-! # Directives, anchors and tags

* `directive`: a line behind a percent sign.
* `anchorName`: the name behind an ampersand or an asterisk.
* `tag`: the tag behind an exclamation mark, with a handle or complete between angle brackets.
-/

namespace Yan85.Document
set_option autoImplicit false

/-- Characters of names. -/
def isNameChar (c : Char) : Bool := c.isAlphanum || c == '-' || c == '_'

/-- Characters of a tag. -/
def isUriChar (c : Char) : Bool :=
  c.isAlphanum || "-;/?:@&=+$,_.!~*()[]%".toList.contains c || c.toNat == 0x27

/-- A nonempty name. -/
def name (c : Cursor) : Except DocumentFault (String × Cursor) :=
  let cs := c.run isNameChar
  if cs.isEmpty then .error c.refusal else .ok (String.ofList cs, c.skip cs.length)

/-! ## Tags -/

/-- The bytes written by percent signs with two hexadecimal digits each. -/
def percentBytes : Nat → Cursor → Except DocumentFault (List UInt8 × Cursor)
  | 0, c => .ok ([], c)
  | fuel + 1, c =>
    if c.at? '%' then
      match hexNumber? 2 c.next.rest with
      | some n => do
        let (bs, c') ← percentBytes fuel (c.skip 3)
        return (UInt8.ofNat n :: bs, c')
      | none => .error (c.next.skipRun fun d => (hexDigit? d).isSome).refusal
    else .ok ([], c)

/-- The characters of a tag, percent escapes decoded. -/
def uriChars : Nat → Cursor → Except DocumentFault (List Char × Cursor)
  | 0, c => .ok ([], c)
  | fuel + 1, c =>
    match c.here with
    | some '%' => do
      let (bs, c') ← percentBytes c.left c
      match Text.Utf8.decode? bs with
      | some xs =>
        let (ys, c'') ← uriChars fuel c'
        return (xs ++ ys, c'')
      | none => throw .malformed
    | some x =>
      if isUriChar x then do
        let (ys, c') ← uriChars fuel c.next
        return (x :: ys, c')
      else .ok ([], c)
    | none => .ok ([], c)

/-- A tag or the part of it behind a handle. -/
def uri (c : Cursor) : Except DocumentFault (String × Cursor) := do
  if (c.here.map isUriChar).getD false then
    let (cs, c') ← uriChars c.left c
    return (String.ofList cs, c')
  else throw c.refusal

/-- A handle: one exclamation mark, or a name between two. -/
def tagHandle (c : Cursor) : Except DocumentFault (String × Cursor) :=
  if c.at? '!' then
    let c1 := c.next
    if c1.at? ' ' then .ok ("!", c1)
    else
      let cs := c1.run isNameChar
      let c2 := c1.skip cs.length
      if c2.at? '!' then .ok (String.ofList ('!' :: cs ++ ['!']), c2.next) else .error c2.refusal
  else .error c.refusal

/-- Whether another exclamation mark comes before the next space or line end. -/
def hasSecondMark (c : Cursor) : Bool :=
  (c.next.rest.takeWhile fun x => !endsItem (some x)).contains '!'

/-- The parts of a tag; the cursor stands at its exclamation mark. -/
def tagParts (c : Cursor) : Except DocumentFault (Token × Cursor) := do
  if c.peek 1 == some '<' then
    let (suffix, c') ← uri (c.skip 2)
    if c'.at? '>' then return (.tag none suffix, c'.next) else throw c'.refusal
  else if endsWord (c.peek 1) then return (.tag none "!", c.next)
  else if hasSecondMark c then
    let (handle, c1) ← tagHandle c
    let (suffix, c2) ← uri c1
    return (.tag (some handle) suffix, c2)
  else
    let (suffix, c2) ← uri c.next
    return (.tag (some "!") suffix, c2)

/-- A tag; a space or a line end comes behind it. -/
def tag (c : Cursor) : Except DocumentFault (Token × Cursor) := do
  let (t, c') ← tagParts c
  if endsItem c'.here then return (t, c') else throw .malformed

/-! ## Anchors -/

/-- The name of an anchor or alias; the cursor stands at its mark. -/
def anchorName (c : Cursor) : Except DocumentFault (String × Cursor) := do
  let (s, c') ← name c.next
  let ends :=
    endsWord c'.here || match c'.here with
      | some x => ['?', ':', ',', ']', '\x7d', '%', '@', Char.ofNat 0x60].contains x
      | none => true
  if ends then return (s, c') else throw .malformed

/-! ## Directives -/

/-- A decimal number, which has a greatest length. -/
def number (c : Cursor) : Except DocumentFault (Nat × Cursor) :=
  let cs := c.run Char.isDigit
  if cs.isEmpty then .error c.refusal
  else if Text.IntegerLiteral.digitLimit < cs.length then .error (.longInteger cs.length)
  else .ok (cs.foldl (fun n d => n * 10 + (d.toNat - '0'.toNat)) 0, c.skip cs.length)

/-- The version behind the directive for it. -/
def version (c : Cursor) : Except DocumentFault (Directive × Cursor) := do
  let (major, c1) ← number c.skipSpaces
  if c1.at? '.' then
    let (_, c2) ← number c1.next
    if endsItem c2.here then return (.version major, c2) else throw .malformed
  else throw c1.refusal

/-- Handle and replacement behind the directive for them. -/
def handleDirective (c : Cursor) : Except DocumentFault (Directive × Cursor) := do
  let (handle, c1) ← tagHandle c.skipSpaces
  if c1.at? ' ' then
    let (replacement, c2) ← uri c1.skipSpaces
    if endsItem c2.here then return (.tagHandle handle replacement, c2) else throw .malformed
  else throw c1.refusal

/-- A directive and the rest of its line; the cursor stands at the percent sign. -/
def directive (c : Cursor) : Except DocumentFault (Token × Cursor) := do
  let (s, c1) ← name c.next
  if endsItem c1.here then
    let (d, c2) ←
      if s = "YAML" then version c1
      else if s = "TAG" then handleDirective c1
      else .ok (.other, c1.skipRun fun x => !isBreak x)
    let c3 := c2.skipSpaces.skipComment
    if endsLine c3.here then
      match c3.lineBreak? with
      | some (_, c4) => return (.directive d, c4)
      | none => return (.directive d, c3)
    else throw .malformed
  else throw .malformed

end Yan85.Document
