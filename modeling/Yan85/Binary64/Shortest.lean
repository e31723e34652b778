import Yan85.Binary64.Basic

/-! # The shortest decimal that reads back

The decimals that read back as a given number form an interval around it. `shortest` looks through
the decimal grids of 1, 2, … 17 digits: the first grid with a point in the interval gives the
digits, of two points the one nearer to the number, of two equally near ones the even one.
-/

namespace Yan85.Binary64
set_option autoImplicit false

/-- A decimal `digits * 10 ^ exponent`. -/
structure Decimal where
  digits : Nat
  exponent : Int
  deriving DecidableEq, Repr

/-- The interval of what reads back as `m * 2 ^ e`, all over one denominator. -/
structure Interval where
  low : Nat
  middle : Nat
  high : Nat
  den : Nat
  closed : Bool

/-- The interval reaches half a step to either side, a quarter below a power of two, and holds its
ends if the mantissa is even. -/
def interval (m : Nat) (e : Int) : Interval :=
  let unit := Nat.pow 2 (e - 2).toNat
  let below := if m = Nat.pow 2 52 ∧ leastExponent < e then 1 else 2
  { low := (4 * m - below) * unit
    middle := 4 * m * unit
    high := (4 * m + 2) * unit
    den := Nat.pow 2 (2 - e).toNat
    closed := m % 2 = 0 }

/-- The integer `k` with `10 ^ (k - 1) ≤ num / den < 10 ^ k`, for a fraction above zero. -/
def decimalOrder (num den : Nat) : Int :=
  if den ≤ num then Int.ofNat (Nat.toDigits 10 (num / den)).length
  else 1 - Int.ofNat (Nat.toDigits 10 ((den - 1) / num)).length

/-- The point that the grid of step `10 ^ p` has in an interval, as a multiple of the step. -/
def gridPoint? (i : Interval) (p : Int) : Option Nat :=
  let step := Nat.pow 10 p.toNat * i.den
  let scale := Nat.pow 10 (-p).toNat
  let inside (c : Nat) : Bool :=
    if i.closed then i.low * scale ≤ c * step && c * step ≤ i.high * scale
    else i.low * scale < c * step && c * step < i.high * scale
  let v := i.middle * scale
  let c := v / step
  match inside c, inside (c + 1) with
  | false, false => none
  | true, false => some c
  | false, true => some (c + 1)
  | true, true =>
    let down := v - c * step
    let up := (c + 1) * step - v
    some (if down < up then c else if up < down then c + 1 else if c % 2 = 0 then c else c + 1)

/-- The grids of `n`, `n + 1`, … digits, `fuel` of them, looked through in turn. -/
def searchGrids (i : Interval) (order : Int) : Nat → Nat → Option Decimal
  | 0, _ => none
  | fuel + 1, n =>
    match gridPoint? i (order - Int.ofNat n) with
    | some c => some ⟨c, order - Int.ofNat n⟩
    | none => searchGrids i order fuel (n + 1)

/-- The shortest decimal that reads back as `m * 2 ^ e`. -/
def shortest (m : Nat) (e : Int) : Decimal :=
  let i := interval m e
  (searchGrids i (decimalOrder i.middle i.den) 17 1).getD ⟨0, 0⟩

end Yan85.Binary64
