/-! # Base 64

`decode?` reads bytes written in groups of four letters for three bytes. Characters that are no
letters of this alphabet are skipped; padding ends the text where a group is complete with it.
-/

namespace Yan85.Text.Base64
set_option autoImplicit false

/-- The six bits that a letter stands for. -/
def sextet? (c : Char) : Option Nat :=
  if 'A' ≤ c ∧ c ≤ 'Z' then some (c.toNat - 'A'.toNat)
  else if 'a' ≤ c ∧ c ≤ 'z' then some (c.toNat - 'a'.toNat + 26)
  else if '0' ≤ c ∧ c ≤ '9' then some (c.toNat - '0'.toNat + 52)
  else if c = '+' then some 62
  else if c = '/' then some 63
  else none

/-- The bytes of a text behind `position` letters of a group; `left` are the bits of these letters
that belong to no byte yet, and `pads` counts the padding since the last letter. -/
def bytes (position left pads : Nat) : List Char → Option (List UInt8)
  | [] => if position = 0 then some [] else none
  | c :: cs =>
    if c = '=' then
      if 2 ≤ position then
        if 4 ≤ position + pads + 1 then some [] else bytes position left (pads + 1) cs
      else bytes position left pads cs
    else
      match sextet? c with
      | none => bytes position left pads cs
      | some n =>
        match position with
        | 0 => bytes 1 n 0 cs
        | 1 => (bytes 2 (n % 16) 0 cs).map (UInt8.ofNat (left * 4 + n / 16) :: ·)
        | 2 => (bytes 3 (n % 4) 0 cs).map (UInt8.ofNat (left * 16 + n / 4) :: ·)
        | _ => (bytes 0 0 0 cs).map (UInt8.ofNat (left * 64 + n) :: ·)

/-- The bytes that a text writes. -/
def decode? (cs : List Char) : Option (List UInt8) := bytes 0 0 0 cs

end Yan85.Text.Base64
