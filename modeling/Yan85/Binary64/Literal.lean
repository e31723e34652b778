import Yan85.Binary64.Basic
import Yan85.Text.IntegerLiteral

/-! # Floating-point numbers read from texts

`read?` takes blanks at both ends, a sign, and then a decimal with an optional exponent, or one of
the words for infinity and not-a-number in any letter case. Single underscores may stand between
digits.
-/

namespace Yan85.Binary64
set_option autoImplicit false

open Yan85.Text (strip)
open Yan85.Text.IntegerLiteral (digit? narrow value)

/-- The digits that follow a digit, underscores left out, and the text after them. -/
def moreDigits : List Char → List Nat × List Char
  | [] => ([], [])
  | c :: cs =>
    match digit? 10 c with
    | some d => let (ds, r) := moreDigits cs; (d :: ds, r)
    | none =>
      match c, cs with
      | '_', c' :: cs' =>
        match digit? 10 c' with
        | some d => let (ds, r) := moreDigits cs'; (d :: ds, r)
        | none => ([], c :: cs)
      | _, _ => ([], c :: cs)

/-- The digits at the start of a text, and the text after them. -/
def digitRun : List Char → List Nat × List Char
  | [] => ([], [])
  | c :: cs =>
    match digit? 10 c with
    | some d => let (ds, r) := moreDigits cs; (d :: ds, r)
    | none => ([], c :: cs)

/-- The exponent that ends a number. -/
def exponent? : List Char → Option Int
  | [] => some 0
  | c :: cs =>
    if c = 'e' ∨ c = 'E' then
      let (negative, rest) :=
        match cs with
        | '-' :: r => (true, r)
        | '+' :: r => (false, r)
        | r => (false, r)
      match digitRun rest with
      | ([], _) => none
      | (ds, []) =>
        let n := Int.ofNat (value 10 ds)
        some (if negative then -n else n)
      | _ => none
    else none

/-- A decimal without sign. -/
def decimal? (negative : Bool) (cs : List Char) : Option Binary64 :=
  let (whole, r) := digitRun cs
  let (fraction, r') :=
    match r with
    | '.' :: r1 => digitRun r1
    | _ => ([], r)
  if whole = [] ∧ fraction = [] then none
  else
    (exponent? r').map fun e =>
      ofDecimal negative (value 10 (whole ++ fraction)) (e - Int.ofNat fraction.length)

/-- A number without sign. -/
def unsigned? (negative : Bool) (cs : List Char) : Option Binary64 :=
  let word := String.ofList (cs.map Char.toLower)
  if word = "inf" ∨ word = "infinity" then some (infinite negative)
  else if word = "nan" then some nan
  else decimal? negative cs

/-- The number that a text writes. -/
def read? (cs : List Char) : Option Binary64 :=
  match (strip cs).map narrow with
  | '-' :: cs => unsigned? true cs
  | '+' :: cs => unsigned? false cs
  | cs => unsigned? false cs

end Yan85.Binary64
