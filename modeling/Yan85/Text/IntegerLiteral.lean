import Yan85.Text.CharClass

/-! # Integers written as texts

`read base cs` reads characters as an integer: blanks at both ends, a sign, in base 2, 8 or 16 an
optional mark (`0b`, `0o`, `0x`, which one underscore may follow), and digits between which single
underscores may stand. Blanks and decimal digits of any script count. A number in base 10 has at
most `digitLimit` digits, leading zeros counted; what follows too many digits does not matter.
-/

namespace Yan85.Text.IntegerLiteral
set_option autoImplicit false

/-- The most digits that a number in base 10 is read from or written with. -/
def digitLimit : Nat := 4300

/-- Why a text is no integer. -/
inductive Failure
  | malformed
  | tooLong (digits : Nat)
  deriving DecidableEq, Repr

/-- A character as it counts in a number: a decimal digit of another script as that of ASCII, and
every blank as a space. -/
def narrow (c : Char) : Char :=
  if isBlank c then ' '
  else
    match decimalDigit? c with
    | some d => Nat.digitChar d
    | none => c

/-- The value of a digit: a decimal digit, or a letter for ten and more. -/
def digit? (base : Nat) (c : Char) : Option Nat :=
  let v :=
    if '0' ≤ c ∧ c ≤ '9' then some (c.toNat - '0'.toNat)
    else if 'a' ≤ c ∧ c ≤ 'z' then some (c.toNat - 'a'.toNat + 10)
    else if 'A' ≤ c ∧ c ≤ 'Z' then some (c.toNat - 'A'.toNat + 10)
    else none
  v.filter (· < base)

/-- The digits that come first and the text after them; `parted` says that a digit has to come
next. An underscore stands between two digits only. -/
def digits (base : Nat) : Bool → List Char → Option (List Nat × List Char)
  | parted, [] => if parted then none else some ([], [])
  | parted, c :: cs =>
    match digit? base c with
    | some d => (digits base false cs).map fun (ds, r) => (d :: ds, r)
    | none =>
      if parted then none
      else if c = '_' then digits base true cs
      else some ([], c :: cs)

/-- The value of a list of digits, the first one the highest. -/
def value (base : Nat) (ds : List Nat) : Nat := ds.foldl (fun n d => n * base + d) 0

/-- The letter of the mark of a base. -/
def markLetters (base : Nat) : List Char :=
  if base = 2 then ['b', 'B']
  else if base = 8 then ['o', 'O']
  else if base = 16 then ['x', 'X']
  else []

/-- A text without the mark of its base and the underscore after the mark. -/
def dropMark (base : Nat) : List Char → List Char
  | '0' :: m :: cs =>
    if (markLetters base).contains m then
      match cs with
      | '_' :: cs' => cs'
      | _ => cs
    else '0' :: m :: cs
  | cs => cs

/-- A number without sign, before the blanks at the end. -/
def magnitude (base : Nat) (cs : List Char) : Except Failure Nat :=
  match digits base true (dropMark base cs) with
  | none => .error .malformed
  | some (ds, rest) =>
    if base = 10 ∧ digitLimit < ds.length then .error (.tooLong ds.length)
    else if rest.all (· == ' ') then .ok (value base ds)
    else .error .malformed

/-- The integer that a text writes. -/
def read (base : Nat) (cs : List Char) : Except Failure Int :=
  match (cs.map narrow).dropWhile (· == ' ') with
  | '-' :: cs => (magnitude base cs).map fun n => - Int.ofNat n
  | '+' :: cs => (magnitude base cs).map Int.ofNat
  | cs => (magnitude base cs).map Int.ofNat

end Yan85.Text.IntegerLiteral
