import Yan85.Document.Token.Basic

/-! # Block scalars

A bar keeps the line breaks of the lines that follow, an angle bracket folds them. A sign says what
happens to the breaks at the end, a digit how far the lines are indented; without a digit the first
line decides.
-/

namespace Yan85.Document
set_option autoImplicit false

/-- What happens to the line breaks at the end of a block scalar: all but one are dropped, all are
dropped, or all are kept. -/
inductive Chomping
  | clip | strip | keep
  deriving DecidableEq, Repr

/-- The digit that gives an indentation. -/
def indentDigit? (o : Option Char) : Option Nat :=
  match o with
  | some x => if x.isDigit then some (x.toNat - '0'.toNat) else none
  | none => none

/-- The sign for the breaks at the end. -/
def chompingSign? (o : Option Char) : Option Chomping :=
  match o with
  | some '+' => some .keep
  | some '-' => some .strip
  | _ => none

/-- Sign and digit behind the mark of a block scalar, in either order, and the place behind them. -/
def blockHeader (c : Cursor) : Chomping × Option Nat × Cursor :=
  match chompingSign? c.here, indentDigit? c.here with
  | some sign, _ =>
    match indentDigit? c.next.here with
    | some d => (sign, some d, c.skip 2)
    | none => (sign, none, c.next)
  | none, some d =>
    match chompingSign? c.next.here with
    | some sign => (sign, some d, c.skip 2)
    | none => (.clip, some d, c.next)
  | none, none => (.clip, none, c)

/-- The rest of a line that may hold a comment. -/
def blankLineEnd (c : Cursor) : Except DocumentFault Cursor :=
  let c := c.skipSpaces.skipComment
  if endsLine c.here then
    match c.lineBreak? with
    | some (_, c') => .ok c'
    | none => .ok c
  else .error c.refusal

/-- The breaks of the empty lines before the first line, and the widest indentation among all these
lines. -/
def leadingLines : Nat → Nat → Cursor → List Char × Nat × Cursor
  | 0, widest, c => ([], widest, c)
  | fuel + 1, widest, c =>
    if c.at? ' ' then
      let c' := c.next
      leadingLines fuel (max widest c'.column) c'
    else
      match c.lineBreak? with
      | some (x, c') =>
        let (xs, w, c'') := leadingLines fuel widest c'
        (x :: xs, w, c'')
      | none => ([], widest, c)

/-- The place behind the spaces that lie before the column `indent`. -/
def skipIndent (indent : Nat) (c : Cursor) : Cursor :=
  c.skip (min (c.run (· == ' ')).length (indent - c.column))

/-- The breaks of empty lines, and the start of the next line behind its indentation. -/
def emptyLines (indent : Nat) : Nat → Cursor → List Char × Cursor
  | 0, c => ([], c)
  | fuel + 1, c =>
    let c := skipIndent indent c
    match c.lineBreak? with
    | some (x, c') =>
      let (xs, c'') := emptyLines indent fuel c'
      (x :: xs, c'')
    | none => ([], c)

/-- Whether a line starts at the cursor with neither space nor tab. -/
def startsDense (c : Cursor) : Bool := !(c.at? ' ' || c.at? '\t')

/-- The text of the lines from the cursor on, where `breaks` are the empty lines before it, and the
breaks at its end: that of the last line and those of the empty lines behind it. -/
def blockLines (folded : Bool) (indent : Nat) :
    Nat → List Char → Cursor → List Char × List Char × List Char × Cursor
  | 0, breaks, c => ([], [], breaks, c)
  | fuel + 1, breaks, c =>
    if c.column = indent ∧ c.rest ≠ [] then
      let dense := startsDense c
      let line := c.run fun x => !isBreak x
      let c1 := c.skip line.length
      let (lineEnd, c2) :=
        match c1.lineBreak? with
        | some (x, c') => ([x], c')
        | none => ([], c1)
      let (breaks', c3) := emptyLines indent c2.left c2
      let head := breaks ++ line
      if c3.column = indent ∧ c3.rest ≠ [] then
        let joint :=
          if folded && lineEnd == ['\n'] && dense && startsDense c3 then
            (if breaks'.isEmpty then [' '] else [])
          else lineEnd
        let (text, last, tail, c4) := blockLines folded indent fuel breaks' c3
        (head ++ joint ++ text, last, tail, c4)
      else (head, lineEnd, breaks', c3)
    else ([], [], breaks, c)

/-- A block scalar whose content starts at the column `least` or behind it; the cursor stands at its
mark. An indentation of zero is none. -/
def blockScalar (least : Nat) (c : Cursor) : Except DocumentFault (Token × Cursor) := do
  let folded := c.at? '>'
  let (chomping, digit, c1) := blockHeader c.next
  if digit == some 0 || !endsItem c1.here then throw c1.refusal
  let c2 ← blankLineEnd c1
  let least := max least 1
  let (indent, breaks, c3) :=
    match digit with
    | some d =>
      let indent := least + d - 1
      let (xs, c3) := emptyLines indent c2.left c2
      (indent, xs, c3)
    | none =>
      let (xs, widest, c3) := leadingLines c2.left 0 c2
      (max least widest, xs, c3)
  let (text, last, tail, c4) := blockLines folded indent c3.left breaks c3
  let ending :=
    match chomping with
    | .strip => []
    | .clip => last
    | .keep => last ++ tail
  return (.scalar (.ofChars (text ++ ending)) false, c4)

end Yan85.Document
