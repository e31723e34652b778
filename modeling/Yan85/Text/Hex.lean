import Yan85.Byte

/-! # Hexadecimal texts

* `padded`: an integer behind `0x` with at least two digits, or one behind a minus sign.
* `ofBytes`: two digits for every byte, without separators.
* `padded_byteValue`: the text of a byte is the mark `0x` and two digits, also for a byte below sixteen.
* `marked_injective`, `padded_byteValue_injective`: different bytes have different texts.
-/

namespace Yan85.Text.Hex
set_option autoImplicit false

/-- The hexadecimal digits of a number in lower case. -/
def digits (n : Nat) : List Char := Nat.toDigits 16 n

/-- The digits of `n`, filled up with zeros on the left to the width `w`. -/
def fixed (w n : Nat) : List Char := List.replicate (w - (digits n).length) '0' ++ digits n

/-- An integer with its sign behind `0x`; sign, mark and digits fill at least four places. -/
def padded (v : Int) : String :=
  if v < 0 then String.ofList ('-' :: '0' :: 'x' :: digits v.natAbs)
  else String.ofList ('0' :: 'x' :: fixed 2 v.toNat)

/-- Two digits for every byte. -/
def ofBytes (bs : List UInt8) : String := String.ofList (bs.flatMap fun b => fixed 2 b.toNat)

/-! ## The texts of bytes -/

/-- Two hexadecimal digits, the higher one first. -/
def pair (n : Nat) : List Char := [Nat.digitChar (n / 16), Nat.digitChar (n % 16)]

/-- A byte as two hexadecimal digits behind the mark `0x`. -/
def marked (x : UInt8) : String := String.ofList ('0' :: 'x' :: pair x.toNat)

theorem fixed_two {n : Nat} (h : n < 256) : fixed 2 n = pair n := by
  unfold fixed digits pair
  by_cases hn : n < 16
  · rw [Nat.toDigits_of_lt_base hn, Nat.div_eq_of_lt hn, Nat.mod_eq_of_lt hn]
    rfl
  · have hq : n / 16 < 16 := by omega
    rw [Nat.toDigits_of_base_le (by decide) (by omega), Nat.toDigits_of_lt_base hq]
    rfl

theorem padded_byteValue (x : UInt8) : padded (byteValue x) = marked x := by
  have hx : ¬ byteValue x < 0 := Int.not_lt.2 (Int.natCast_nonneg x.toNat)
  have hn : (byteValue x).toNat = x.toNat := rfl
  unfold padded marked
  rw [if_neg hx, hn, fixed_two x.toNat_lt]

theorem digitChar_injective_of_lt {d e : Nat} (hd : d < 16) (he : e < 16)
    (h : Nat.digitChar d = Nat.digitChar e) : d = e := by
  have key : ∀ d e : Fin 16, Nat.digitChar d = Nat.digitChar e → d = e := by decide
  exact congrArg Fin.val (key ⟨d, hd⟩ ⟨e, he⟩ h)

theorem marked_injective {x y : UInt8} (h : marked x = marked y) : x = y := by
  have hx := x.toNat_lt
  have hy := y.toNat_lt
  unfold marked pair at h
  obtain ⟨h1, h2⟩ : Nat.digitChar (x.toNat / 16) = Nat.digitChar (y.toNat / 16) ∧
      Nat.digitChar (x.toNat % 16) = Nat.digitChar (y.toNat % 16) := by
    simpa using String.ofList_injective h
  have hdiv := digitChar_injective_of_lt (by omega) (by omega) h1
  have hmod := digitChar_injective_of_lt (by omega) (by omega) h2
  apply UInt8.toNat_inj.1
  omega

theorem padded_byteValue_injective {x y : UInt8}
    (h : padded (byteValue x) = padded (byteValue y)) : x = y := by
  rw [padded_byteValue, padded_byteValue] at h
  exact marked_injective h

end Yan85.Text.Hex
