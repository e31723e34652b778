import Yan85.Document.Token.Basic

/-! # Quoted scalars

* In single quotes only the quote itself is written twice.
* In double quotes a backslash starts an escape.
* In both, blanks around a line break are dropped; a single break becomes a space, further ones
  stay.
-/

namespace Yan85.Document
set_option autoImplicit false

/-- Escapes of one letter and the code point that each stands for. -/
def shortEscapes : List (Char × Nat) :=
  [('0', 0x00), ('a', 0x07), ('b', 0x08), ('t', 0x09), ('\t', 0x09), ('n', 0x0A), ('v', 0x0B),
   ('f', 0x0C), ('r', 0x0D), ('e', 0x1B), (' ', 0x20), (Char.ofNat 0x22, 0x22), ('\\', 0x5C),
   ('/', 0x2F), ('N', 0x85), ('_', 0xA0), ('L', 0x2028), ('P', 0x2029)]

/-- Letters of numeric escapes and the number of hexadecimal digits after each. -/
def numericEscapes : List (Char × Nat) := [('x', 2), ('u', 4), ('U', 8)]

/-- The value of a hexadecimal digit. -/
def hexDigit? (c : Char) : Option Nat :=
  if '0' ≤ c ∧ c ≤ '9' then some (c.toNat - '0'.toNat)
  else if 'a' ≤ c ∧ c ≤ 'f' then some (c.toNat - 'a'.toNat + 10)
  else if 'A' ≤ c ∧ c ≤ 'F' then some (c.toNat - 'A'.toNat + 10)
  else none

/-- The number written by exactly `n` hexadecimal digits at the start of `cs`. -/
def hexNumber? (n : Nat) (cs : List Char) : Option Nat :=
  let ds := cs.take n
  if ds.length = n then
    ds.foldlM (fun acc c => (hexDigit? c).map fun d => acc * 16 + d) 0
  else none

/-- A number as a code point. Surrogates are among these. -/
def codePoint? (n : Nat) : Except DocumentFault Nat :=
  if 0x10FFFF < n then .error .noCharacter else .ok n

/-- The line breaks, with blanks between them, that follow in a quoted scalar. A mark between
documents may not come at the start of a line. -/
def quotedBreaks : Nat → Cursor → Except DocumentFault (List Char × Cursor)
  | 0, _ => .error .malformed
  | fuel + 1, c =>
    if c.atDocumentMark then .error .malformed
    else
      let c := c.skipRun fun x => x == ' ' || x == '\t'
      match c.lineBreak? with
      | some (x, c') => do
        let (xs, c'') ← quotedBreaks fuel c'
        return (x :: xs, c'')
      | none => .ok ([], c)

/-- The blanks at the cursor, and what they and the line breaks behind them stand for. -/
def quotedBlanks (c : Cursor) : Except DocumentFault (List Char × Cursor) :=
  let isSpace := fun x => x == ' ' || x == '\t'
  let blanks := c.run isSpace
  let c := c.skipRun isSpace
  match c.lineBreak? with
  | some (x, c') => do
    let (xs, c'') ← quotedBreaks c'.left c'
    let first := if x != '\n' then [x] else if xs.isEmpty then [' '] else []
    return (first ++ xs, c'')
  | none => if c.rest.isEmpty then .error c.refusal else .ok (blanks, c)

/-- The code points of an escape; the cursor stands behind the backslash. -/
def escape (c : Cursor) : Except DocumentFault (List Nat × Cursor) :=
  match c.here with
  | none => .error c.refusal
  | some x =>
    match shortEscapes.lookup x, numericEscapes.lookup x with
    | some n, _ => .ok ([n], c.next)
    | none, some k =>
      match hexNumber? k c.next.rest with
      | some n => do return ([← codePoint? n], c.next.skip k)
      | none => .error (c.next.skipRun fun d => (hexDigit? d).isSome).refusal
    | none, none =>
      match c.lineBreak? with
      | some (_, c') => do
        let (xs, c'') ← quotedBreaks c'.left c'
        return (xs.map Char.toNat, c'')
      | none => .error .malformed

/-- The code points up to the closing quote, which is consumed. -/
def quotedBody (double : Bool) : Nat → Cursor → Except DocumentFault (List Nat × Cursor)
  | 0, _ => .error .malformed
  | fuel + 1, c => do
    let single := Char.ofNat 0x27
    let twofold := Char.ofNat 0x22
    match c.here with
    | none => throw c.refusal
    | some x =>
      if x == (if double then twofold else single) then
        if !double && c.peek 1 == some single then
          let (xs, c') ← quotedBody double fuel (c.skip 2)
          return (single.toNat :: xs, c')
        else return ([], c.next)
      else if x == ' ' || x == '\t' || isBreak x then
        let (xs, c') ← quotedBlanks c
        let (ys, c'') ← quotedBody double fuel c'
        return (xs.map Char.toNat ++ ys, c'')
      else if double && x == '\\' then
        let (xs, c') ← escape c.next
        let (ys, c'') ← quotedBody double fuel c'
        return (xs ++ ys, c'')
      else
        let (xs, c') ← quotedBody double fuel c.next
        return (x.toNat :: xs, c')

/-- A quoted scalar; the cursor stands at its opening quote. -/
def quotedScalar (c : Cursor) : Except DocumentFault (Token × Cursor) := do
  let double := c.here == some (Char.ofNat 0x22)
  let (codes, c') ← quotedBody double c.left c.next
  return (.scalar ⟨codes⟩ false, c')

end Yan85.Document
