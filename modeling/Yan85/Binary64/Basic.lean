/-! # Binary floating-point numbers of 64 bits

* `Binary64`: a sign, a mantissa below 2^53 and a power of two; the infinities; not a number.
* `nearest`: the number nearest to a fraction, of two equally near ones the one with the even
  mantissa.
* `scaled?`: a finite number as a multiple of 2^-1074, through which numbers are compared, added
  and multiplied.
-/

namespace Yan85
set_option autoImplicit false

/-- A floating-point number; a finite one stands for `± mantissa * 2 ^ exponent`. -/
inductive Binary64
  | finite (negative : Bool) (mantissa : Nat) (exponent : Int)
  | infinite (negative : Bool)
  | nan
  deriving DecidableEq, Repr, Inhabited

namespace Binary64

/-- The least exponent. -/
def leastExponent : Int := -1074

/-- The greatest exponent. -/
def greatestExponent : Int := 971

def zero (negative : Bool) : Binary64 := finite negative 0 leastExponent

/-- `num / den` rounded to the nearest whole number, a half to the even one. -/
def roundHalfEven (num den : Nat) : Nat :=
  let q := num / den
  let r := num % den
  if den < 2 * r ∨ (2 * r = den ∧ q % 2 = 1) then q + 1 else q

/-- The integer `e` with `2 ^ e ≤ num / den < 2 ^ (e + 1)`. -/
def binaryOrder (num den : Nat) : Int :=
  let e : Int := Int.ofNat num.log2 - Int.ofNat den.log2
  if den * Nat.pow 2 e.toNat ≤ num * Nat.pow 2 (-e).toNat then e else e - 1

/-- The number nearest to `± num / den`. -/
def nearest (negative : Bool) (num den : Nat) : Binary64 :=
  if num = 0 then zero negative
  else
    let e := max (binaryOrder num den - 52) leastExponent
    let m := roundHalfEven (num * Nat.pow 2 (-e).toNat) (den * Nat.pow 2 e.toNat)
    let carried := m = Nat.pow 2 53
    let e' := if carried then e + 1 else e
    let m' := if carried then Nat.pow 2 52 else m
    if greatestExponent < e' then infinite negative else finite negative m' e'

/-- The number nearest to `± digits * 10 ^ exponent`. -/
def ofDecimal (negative : Bool) (digits : Nat) (exponent : Int) : Binary64 :=
  let length : Int := Int.ofNat (Nat.toDigits 10 digits).length
  if digits = 0 then zero negative
  else if 310 < length + exponent then infinite negative
  else if length + exponent < -330 then zero negative
  else nearest negative (digits * Nat.pow 10 exponent.toNat) (Nat.pow 10 (-exponent).toNat)

/-- A finite number as a multiple of 2^-1074. -/
def scaled? : Binary64 → Option Int
  | finite negative m e =>
    let n := Int.ofNat (m * Nat.pow 2 (e - leastExponent).toNat)
    some (if negative then -n else n)
  | _ => none

def isZero : Binary64 → Bool
  | finite _ m _ => m == 0
  | _ => false

def neg : Binary64 → Binary64
  | finite s m e => finite (!s) m e
  | infinite s => infinite (!s)
  | nan => nan

/-- The number nearest to a multiple of 2^-1074. -/
def ofScaled (n : Int) : Binary64 := nearest (n < 0) n.natAbs (Nat.pow 2 1074)

/-- The sum of two numbers. -/
def add : Binary64 → Binary64 → Binary64
  | nan, _ => nan
  | _, nan => nan
  | infinite s, infinite t => if s = t then infinite s else nan
  | infinite s, _ => infinite s
  | _, infinite s => infinite s
  | x, y => ofScaled (x.scaled?.getD 0 + y.scaled?.getD 0)

/-- A number multiplied by a whole number above zero. -/
def mulNat : Binary64 → Nat → Binary64
  | finite s m e, n =>
    match nearest false n 1 with
    | finite _ k f => nearest s (m * k * Nat.pow 2 (e + f).toNat) (Nat.pow 2 (-(e + f)).toNat)
    | _ => infinite s
  | x, _ => x

end Binary64

end Yan85
