import Yan85.Binary64.Shortest

/-! # Floating-point numbers as texts

* `Style`: between which places of the point a number is written out, and how an exponent looks.
* `written`: the shortest digits of a number in the style of the messages.
-/

namespace Yan85.Binary64
set_option autoImplicit false

/-- How a number is laid out: the point stands among the digits if its place is in the range from
`leastPoint` to `greatestPoint`, else an exponent of at least `exponentWidth` digits follows. -/
structure Style where
  leastPoint : Int
  greatestPoint : Int
  exponentWidth : Nat

/-- Numbers from 0.0001 to below 10^16 are written out; an exponent has at least two digits. -/
def messageStyle : Style := ⟨-3, 16, 2⟩

/-- Digits without the zeros at their end. -/
def trimZeros (ds : List Char) : List Char := (ds.reverse.dropWhile (· == '0')).reverse

/-- Digits with the point after the first `point` of them, one digit at least on either side. -/
def positional (ds : List Char) (point : Int) : List Char :=
  if point ≤ 0 then '0' :: '.' :: List.replicate (-point).toNat '0' ++ ds
  else
    let n := point.toNat
    if ds.length ≤ n then ds ++ List.replicate (n - ds.length) '0' ++ ['.', '0']
    else ds.take n ++ '.' :: ds.drop n

/-- Digits with the point after the first of them and an exponent. -/
def exponential (style : Style) (ds : List Char) (point : Int) : List Char :=
  let e := point - 1
  let es := Nat.toDigits 10 e.natAbs
  let fraction := if ds.length ≤ 1 then [] else '.' :: ds.drop 1
  ds.take 1 ++ fraction ++ 'e' :: (if e < 0 then '-' else '+') ::
    List.replicate (style.exponentWidth - es.length) '0' ++ es

/-- The text of a number. -/
def written (style : Style) : Binary64 → String
  | nan => "nan"
  | infinite negative => if negative then "-inf" else "inf"
  | finite negative m e =>
    let sign := if negative then ['-'] else []
    if m = 0 then String.ofList (sign ++ ['0', '.', '0'])
    else
      let d := shortest m e
      let all := Nat.toDigits 10 d.digits
      let point := Int.ofNat all.length + d.exponent
      let ds := trimZeros all
      String.ofList (sign ++
        if style.leastPoint ≤ point ∧ point ≤ style.greatestPoint then positional ds point
        else exponential style ds point)

end Yan85.Binary64
