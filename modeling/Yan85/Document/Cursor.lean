import Yan85.Document.Fault

/-! # Places in the text of a document

* `Cursor`: the text that is still to be read, with index, line and column, and the fault behind it
  if the text breaks off.
* Classes of characters that end a word or a line; the end of the text belongs to all of them.
* `lineBreak?`: a line break and the place behind it.
-/

namespace Yan85.Document
set_option autoImplicit false

/-- A place in a text of `size` characters. Behind a text that breaks off stands the fault that is
found there. -/
structure Cursor where
  rest : List Char
  size : Nat
  ending : Option DocumentFault
  index : Nat
  line : Nat
  column : Nat

/-- Characters that break a line. -/
def isBreak (c : Char) : Bool :=
  c == '\n' || c == '\r' || c.toNat == 0x85 || c.toNat == 0x2028 || c.toNat == 0x2029

/-- The mark of the byte order, which takes no column. -/
def isOrderMark (c : Char) : Bool := c.toNat == 0xFEFF

/-- The end of a line. -/
def endsLine : Option Char → Bool
  | none => true
  | some c => isBreak c

/-- A space or the end of a line. -/
def endsItem : Option Char → Bool
  | none => true
  | some c => c == ' ' || isBreak c

/-- A blank or the end of a line. -/
def endsWord : Option Char → Bool
  | none => true
  | some c => c == ' ' || c == '\t' || isBreak c

namespace Cursor

/-- The start of a text. -/
def start (cs : List Char) (ending : Option DocumentFault) : Cursor :=
  ⟨cs, cs.length, ending, 0, 0, 0⟩

/-- The fault that is met at the cursor, where the text breaks off. -/
def broken? (c : Cursor) : Option DocumentFault := if c.rest.isEmpty then c.ending else none

/-- Why a token cannot go on at the cursor. -/
def refusal (c : Cursor) : DocumentFault := c.broken?.getD .malformed

/-- A number of steps that is enough to reach the end of the text. -/
def left (c : Cursor) : Nat := c.size - c.index + 1

/-- The character `k` places ahead. -/
def peek (c : Cursor) (k : Nat) : Option Char := c.rest[k]?

/-- The character at the cursor. -/
def here (c : Cursor) : Option Char := c.rest.head?

/-- Whether the character at the cursor is `x`. -/
def at? (c : Cursor) (x : Char) : Bool := c.here == some x

/-- The place one character further. -/
def next (c : Cursor) : Cursor :=
  match c.rest with
  | [] => c
  | x :: xs =>
    if isBreak x && !(x == '\r' && xs.head? == some '\n') then
      { c with rest := xs, index := c.index + 1, line := c.line + 1, column := 0 }
    else
      { c with
        rest := xs
        index := c.index + 1
        column := if isOrderMark x then c.column else c.column + 1 }

/-- The place `n` characters further. -/
def skip : Nat → Cursor → Cursor
  | 0, c => c
  | n + 1, c => skip n c.next

/-- The characters with the property `p` that come first. -/
def run (p : Char → Bool) (c : Cursor) : List Char := c.rest.takeWhile p

/-- The place behind the characters with the property `p` that come first. -/
def skipRun (p : Char → Bool) (c : Cursor) : Cursor := c.skip (c.run p).length

/-- The place behind the spaces that come first. -/
def skipSpaces (c : Cursor) : Cursor := c.skipRun (· == ' ')

/-- The place behind a comment, if there is one. -/
def skipComment (c : Cursor) : Cursor :=
  if c.at? '#' then c.skipRun fun x => !isBreak x else c

/-- A line break as it counts in a scalar, and the place behind it. -/
def lineBreak? (c : Cursor) : Option (Char × Cursor) :=
  match c.rest with
  | '\r' :: '\n' :: _ => some ('\n', c.skip 2)
  | x :: _ =>
    if x == '\r' || x == '\n' || x.toNat == 0x85 then some ('\n', c.next)
    else if isBreak x then some (x, c.next)
    else none
  | [] => none

/-- Whether a mark between documents, `---` or `...`, stands at the cursor. -/
def atDocumentMark (c : Cursor) : Bool :=
  (c.rest.take 3 == ['-', '-', '-'] || c.rest.take 3 == ['.', '.', '.']) && endsWord (c.peek 3)

end Cursor

end Yan85.Document
