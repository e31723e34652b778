import Yan85.Document.Token.Basic

/-! # Plain scalars

A plain scalar ends at a colon before a blank, at a comment behind a blank, at the brackets and
commas of flow style, and at a line that is indented too little. It may go on over several lines;
the breaks between them are folded as in quotes.
-/

namespace Yan85.Document
set_option autoImplicit false

/-- What follows a colon that ends a plain scalar. -/
def endsKey (inFlow : Bool) (o : Option Char) : Bool :=
  endsWord o || (inFlow && match o with
    | some x => [',', '[', ']', '\x7b', '\x7d'].contains x
    | none => false)

/-- The characters up to the end of a word of a plain scalar. -/
def plainWord (inFlow : Bool) : List Char → List Char
  | [] => []
  | x :: xs =>
    if endsWord (some x) || (x == ':' && endsKey inFlow xs.head?) ||
        (inFlow && [',', '?', '[', ']', '\x7b', '\x7d'].contains x) then []
    else x :: plainWord inFlow xs

/-- Line breaks with spaces between them; `none` at a mark between documents. -/
def plainBreaks : Nat → Cursor → Option (List Char × Cursor)
  | 0, c => some ([], c)
  | fuel + 1, c =>
    let c := c.skipSpaces
    match c.lineBreak? with
    | some (x, c') =>
      if c'.atDocumentMark then none
      else (plainBreaks fuel c').map fun (xs, c'') => (x :: xs, c'')
    | none => some ([], c)

/-- What the spaces and line breaks between two words stand for, the place behind them, and whether
a line was broken. Nothing stands there before a mark between documents. -/
def plainSpaces (c : Cursor) : List Char × Cursor × Bool :=
  let spaces := c.run (· == ' ')
  let c := c.skipSpaces
  match c.lineBreak? with
  | some (x, c') =>
    if c'.atDocumentMark then ([], c', true)
    else
      match plainBreaks c'.left c' with
      | none => ([], c', true)
      | some (xs, c'') =>
        ((if x != '\n' then [x] else if xs.isEmpty then [' '] else []) ++ xs, c'', true)
  | none => (spaces, c, false)

/-- The words of a plain scalar from the cursor on, after the characters `before`. The last part of
the result says whether the scan ended behind a line break. -/
def plainWords (inFlow : Bool) (least : Nat) :
    Nat → List Char → Bool → Cursor → List Char × Cursor × Bool
  | 0, _, broken, c => ([], c, broken)
  | fuel + 1, before, broken, c =>
    if c.at? '#' then ([], c, broken)
    else
      let word := plainWord inFlow c.rest
      if word.isEmpty then ([], c, broken)
      else
        let c := c.skip word.length
        let (spaces, c', broken') := plainSpaces c
        let text := before ++ word
        if spaces.isEmpty || c'.at? '#' || (!inFlow && c'.column < least) then
          (text, c', broken')
        else
          let (more, c'', broken'') := plainWords inFlow least fuel spaces broken' c'
          (text ++ more, c'', broken'')

/-- A plain scalar whose further lines start at the column `least` or behind it, with whether the
scan ended behind a line break. -/
def plainScalar (inFlow : Bool) (least : Nat) (c : Cursor) : (Token × Bool) × Cursor :=
  let (cs, c', broken) := plainWords inFlow least c.left [] false c
  ((.scalar (.ofChars cs) true, broken), c')

end Yan85.Document
