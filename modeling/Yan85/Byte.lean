/-! # Bytes among the integers

`byte?` reads an integer as a byte; `byte?_eq_some_iff` says which integers are one.
-/

namespace Yan85
set_option autoImplicit false

/-- An integer of 0 to 255 as a byte. -/
def byte? (v : Int) : Option UInt8 :=
  if 0 ≤ v ∧ v ≤ 0xFF then some (UInt8.ofNat v.toNat) else none

/-- A byte as an integer. -/
def byteValue (x : UInt8) : Int := Int.ofNat x.toNat

theorem byte?_eq_some_iff {v : Int} {x : UInt8} : byte? v = some x ↔ v = byteValue x := by
  have hx : x.toNat < 256 := x.toNat_lt
  unfold byte? byteValue
  by_cases h : 0 ≤ v ∧ v ≤ 0xFF
  · rw [if_pos h]
    constructor
    · intro e
      have e' := Option.some.inj e
      subst e'
      simp only [UInt8.toNat_ofNat', Int.ofNat_eq_natCast]
      omega
    · intro e
      subst e
      simp
  · rw [if_neg h]
    constructor
    · intro e; cases e
    · intro e
      exfalso
      apply h
      subst e
      simp only [Int.ofNat_eq_natCast]
      omega

@[simp] theorem byte?_byteValue (x : UInt8) : byte? (byteValue x) = some x :=
  byte?_eq_some_iff.2 rfl

theorem byte?_eq_none_iff {v : Int} : byte? v = none ↔ v < 0 ∨ 0xFF < v := by
  unfold byte?
  by_cases h : 0 ≤ v ∧ v ≤ 0xFF
  · rw [if_pos h]; constructor
    · intro e; cases e
    · intro e; omega
  · rw [if_neg h]; constructor
    · intro _; omega
    · intro _; rfl

theorem byteValue_injective {x y : UInt8} (h : byteValue x = byteValue y) : x = y := by
  apply UInt8.toNat_inj.1
  unfold byteValue at h
  exact Int.ofNat.inj h

end Yan85
