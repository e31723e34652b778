import Yan85.Binary64.Literal
import Yan85.Document.Fault
import Yan85.Document.Tag
import Yan85.Text.Base64
import Yan85.Text.CaseMap
import Yan85.Value.Basic

/-! # Values of scalars

One function for each type: the value that a text writes, whether or not the text has the form by
which a plain scalar would be recognised as being of this type.
-/

namespace Yan85.Document.Scalar
set_option autoImplicit false

open Yan85.Text

/-! ## Numbers -/

/-- A whole number as it is written in a base. -/
def number (base : Nat) (t : Text) : Except DocumentFault Int :=
  match IntegerLiteral.read base t.chars with
  | .ok i => .ok i
  | .error .malformed => .error (.noInteger base t)
  | .error (.tooLong n) => .error (.longInteger n)

/-- A floating-point number as it is written. -/
def real (t : Text) : Except DocumentFault Binary64 :=
  match Binary64.read? t.chars with
  | some x => .ok x
  | none => .error (.noFloat t)

/-- A number between a sign and its end. -/
def dropSign (t : Text) : Text := if t.startsWith "-" || t.startsWith "+" then t.drop 1 else t

/-- A whole number without sign and underscores. A zero at the start means base 8. -/
def magnitude (t : Text) : Except DocumentFault Int :=
  if t.isEmpty then .error .malformed
  else if t = .ofString "0" then .ok 0
  else if t.startsWith "0b" then number 2 (t.drop 2)
  else if t.startsWith "0x" then number 16 (t.drop 2)
  else if t.startsWith "0" then number 8 t
  else if t.chars.contains ':' then do
    return (← t.betweenColons.mapM (number 10)).foldl (fun n d => n * 60 + d) 0
  else number 10 t

/-- A whole number; underscores do not count. -/
def int (t : Text) : Except DocumentFault Value := do
  let t := t.without '_'
  let n ← magnitude (dropSign t)
  return .int (if t.startsWith "-" then -n else n)

/-- The number whose digits in base 60 are given, the first one the highest. The products are added
from the lowest digit on, and each sum is rounded. -/
def sixties (digits : List Binary64) : Binary64 :=
  (digits.reverse.foldl
    (fun (a : Binary64 × Nat) d => (a.1.add (d.mulNat a.2), a.2 * 60)) (Binary64.zero false, 1)).1

/-- A floating-point number without sign and underscores, in lower case. -/
def realMagnitude (t : Text) : Except DocumentFault Binary64 :=
  if t = .ofString ".inf" then .ok (.infinite false)
  else if t = .ofString ".nan" then .ok .nan
  else if t.chars.contains ':' then do return sixties (← t.betweenColons.mapM real)
  else real t

/-- A floating-point number; underscores and letter case do not count. -/
def float (t : Text) : Except DocumentFault Value := do
  let t := lower (t.without '_')
  if t.isEmpty then throw .malformed
  let x ← realMagnitude (dropSign t)
  return .float (if t.startsWith "-" then x.neg else x)

/-- Whether a text stands for the one not-a-number that the documents share; any other text for
not-a-number stands for one of its own. -/
def isSharedNan (t : Text) : Bool := dropSign (lower (t.without '_')) = .ofString ".nan"

/-! ## Other types -/

/-- A truth value, in any letter case. -/
def bool (t : Text) : Except DocumentFault Value :=
  let word := String.ofList (lower t).chars
  if ["yes", "true", "on"].contains word then .ok (.bool true)
  else if ["no", "false", "off"].contains word then .ok (.bool false)
  else .error .malformed

/-- Bytes in base 64. -/
def binary (t : Text) : Except DocumentFault Value :=
  match if t.codes.all (· < 0x80) then Base64.decode? t.chars else none with
  | some data => .ok (.bytes data)
  | none => .error .malformed

/-- The number that decimal digits write. -/
def decimal (ds : List Char) : Nat := IntegerLiteral.value 10 (ds.map fun d => d.toNat - '0'.toNat)

/-- The microseconds of a fraction of a second, of which six digits count. -/
def micro (fraction : List Char) : Nat := decimal ((fraction ++ List.replicate 6 '0').take 6)

/-- The distance from universal time in minutes. -/
def offset : Option (Bool × List Char × List Char) → Int
  | none => 0
  | some (negative, hour, minute) =>
    let m : Int := decimal hour * 60 + decimal minute
    if negative then -m else m

/-- A date or a time on a date. -/
def timestamp (t : Text) : Except DocumentFault Value := do
  match Tag.stamp? (Tag.dropLastBreak t.chars) with
  | none => throw .malformed
  | some t =>
    let d : Date := ⟨decimal t.year, decimal t.month, decimal t.day⟩
    match t.time with
    | none =>
      match d.check with
      | some f => throw (.calendar f)
      | none => return .date d
    | some u =>
      let m : Moment :=
        ⟨d, decimal u.hour, decimal u.minute, decimal u.second, micro u.fraction,
          u.zone.map offset⟩
      match m.check with
      | some f => throw (.calendar f)
      | none => return .moment m

end Yan85.Document.Scalar
