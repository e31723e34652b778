import Yan85.Text.Basic
import Yan85.Text.Hex
import Yan85.Text.CharClass

/-! # Quoted texts

A text is quoted with single quotes, or with double quotes if it holds a single quote and no double
one. The quote in use, the backslash and whatever is not printable are written as escapes. The text
is given by its code points, so that it may hold surrogates.
-/

namespace Yan85.Text.Quoted
set_option autoImplicit false

/-- The quotation mark for a text. -/
def mark (cs : List Nat) : Char :=
  if cs.contains 0x27 && !cs.contains 0x22 then Char.ofNat 0x22 else Char.ofNat 0x27

/-- One code point as it stands between the quotation marks `q`. -/
def escape (q : Char) (c : Nat) : List Char :=
  if c = q.toNat || c = 0x5C then ['\\', Char.ofNat c]
  else if c = 0x09 then ['\\', 't']
  else if c = 0x0A then ['\\', 'n']
  else if c = 0x0D then ['\\', 'r']
  else if isPrintable c then [Char.ofNat c]
  else if c ≤ 0xFF then '\\' :: 'x' :: Hex.fixed 2 c
  else if c ≤ 0xFFFF then '\\' :: 'u' :: Hex.fixed 4 c
  else '\\' :: 'U' :: Hex.fixed 8 c

/-- The quoted form of a text given by its code points. -/
def ofCodePoints (cs : List Nat) : String :=
  let q := mark cs
  String.ofList (q :: cs.flatMap (escape q) ++ [q])

/-- The quoted form of a text. -/
def ofText (t : Text) : String := ofCodePoints t.codes

def ofString (s : String) : String := ofText (.ofString s)

end Yan85.Text.Quoted
