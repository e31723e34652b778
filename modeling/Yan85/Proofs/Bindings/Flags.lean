import Mathlib.Data.List.Basic
import Yan85.Bindings.Standard
import Yan85.Listing
import Yan85.Machine.Execute

/-! # The flags of a comparison and the masks of conditions

* `Flag.Tells x y f`: the relation of the bytes `x` and `y` that the flag `f` stands for.
* `maskOf fs`: the bits of the flags `fs`. `comparisonFlags_eq_maskOf` says that a comparison sets
  the bits of the flags that tell the truth.
* `Separate`: every flag has a bit, and no two flags share one. `select_comparison_iff` says what a
  mask of such flags selects from a comparison.
* `Covers x`: the byte `x` has no bits but those of flags. `covers_comparisonFlags` says this of
  every comparison.
* `text_eq_dash_iff`: a jump is listed with a dash if its mask selects no flag. Such a mask selects
  nothing from a byte that the flags cover.
-/

namespace Yan85
set_option autoImplicit false

/-- The relation of two bytes that a flag stands for. -/
def Flag.Tells (x y : UInt8) : Flag → Prop
  | .less => x < y
  | .greater => y < x
  | .equal => x = y
  | .bothZero => x = 0 ∧ y = 0
  | .unequal => x ≠ y

instance (x y : UInt8) : (f : Flag) → Decidable (f.Tells x y)
  | .less => inferInstanceAs (Decidable (x < y))
  | .greater => inferInstanceAs (Decidable (y < x))
  | .equal => inferInstanceAs (Decidable (x = y))
  | .bothZero => inferInstanceAs (Decidable (x = 0 ∧ y = 0))
  | .unequal => inferInstanceAs (Decidable (x ≠ y))

theorem or_and_distrib (x y z : UInt8) : (x ||| y) &&& z = (x &&& z) ||| (y &&& z) := by
  apply UInt8.toNat_inj.1
  simp only [UInt8.toNat_and, UInt8.toNat_or]
  exact Nat.and_or_distrib_right ..

theorem ofInt_byteValue (x : UInt8) : UInt8.ofInt (byteValue x) = x := by
  have hx : x.toNat < 256 := x.toNat_lt
  apply UInt8.toNat_inj.1
  simp only [UInt8.ofInt, byteValue, Int.ofNat_eq_natCast, UInt8.toNat_ofNat']
  omega

namespace Bindings

variable {b : Bindings} {x y mask : UInt8} {fs : List Flag}

/-! ## Masks -/

/-- The bits of the given flags. -/
def maskOf (b : Bindings) (fs : List Flag) : UInt8 :=
  fs.foldr (fun f mask => b.flags.get f ||| mask) 0

theorem maskOf_and_eq_zero_iff :
    b.maskOf fs &&& x = 0 ↔ ∀ f ∈ fs, b.flags.get f &&& x = 0 := by
  induction fs with
  | nil => simp [maskOf]
  | cons f fs ih =>
    have hc : b.maskOf (f :: fs) = b.flags.get f ||| b.maskOf fs := rfl
    rw [hc, or_and_distrib, UInt8.or_eq_zero_iff, ih, List.forall_mem_cons]

/-- A comparison sets the bits of the flags that tell the truth. -/
theorem comparisonFlags_eq_maskOf (b : Bindings) (x y : UInt8) :
    comparisonFlags b x y =
      b.maskOf ((Enumerated.all : List Flag).filter fun f => decide (f.Tells x y)) := by
  have hall : (Enumerated.all : List Flag) = [.less, .greater, .equal, .bothZero, .unequal] := rfl
  rw [hall]
  simp only [List.filter_cons, List.filter_nil, Flag.Tells]
  unfold comparisonFlags
  by_cases hl : x < y
  · have hg : ¬ y < x := UInt8.lt_asymm hl
    have he : x ≠ y := UInt8.ne_of_lt hl
    have hz : ¬ (x = 0 ∧ y = 0) := fun hz => he (hz.1.trans hz.2.symm)
    simp [maskOf, hl, hg, he, hz]
  by_cases hg : y < x
  · have he : x ≠ y := (UInt8.ne_of_lt hg).symm
    have hz : ¬ (x = 0 ∧ y = 0) := fun hz => he (hz.1.trans hz.2.symm)
    simp [maskOf, hl, hg, he, hz]
  · obtain rfl : x = y := UInt8.le_antisymm (UInt8.not_lt.1 hg) (UInt8.not_lt.1 hl)
    by_cases hz : x = 0
    · simp [maskOf, hz]
    · simp [maskOf, hz]

theorem comparisonFlags_and_eq_zero_iff :
    comparisonFlags b x y &&& mask = 0 ↔ ∀ f : Flag, f.Tells x y → b.flags.get f &&& mask = 0 := by
  rw [comparisonFlags_eq_maskOf, maskOf_and_eq_zero_iff]
  simp only [List.mem_filter, decide_eq_true_eq, Enumerated.mem_all, true_and]

/-! ## Flags with bits of their own -/

/-- Every flag has a bit, and no two flags share one. -/
structure Separate (b : Bindings) : Prop where
  ne_zero : ∀ f, b.flags.get f ≠ 0
  disjoint : ∀ f g, f ≠ g → b.flags.get f &&& b.flags.get g = 0

theorem separate_standard : standard.Separate where
  ne_zero f := by cases f <;> decide
  disjoint f g := by cases f <;> cases g <;> decide

theorem Separate.and_maskOf_eq_zero_iff (hb : b.Separate) (f : Flag) :
    b.flags.get f &&& b.maskOf fs = 0 ↔ f ∉ fs := by
  rw [UInt8.and_comm, maskOf_and_eq_zero_iff]
  constructor
  · intro h hf
    have hff := h f hf
    rw [UInt8.and_self] at hff
    exact hb.ne_zero f hff
  · rintro hf g hg
    refine hb.disjoint g f ?_
    rintro rfl
    exact hf hg

/-- A mask of flags selects something from a comparison if one of them tells the truth. -/
theorem Separate.select_comparison_iff (hb : b.Separate) :
    comparisonFlags b x y &&& b.maskOf fs ≠ 0 ↔ ∃ f ∈ fs, f.Tells x y := by
  rw [ne_eq, comparisonFlags_and_eq_zero_iff]
  simp only [hb.and_maskOf_eq_zero_iff, not_forall, not_not, exists_prop, and_comm]

/-! ## Masks that select no flag -/

/-- The byte has no bits but those of flags: what selects no flag selects nothing from it. -/
def Covers (b : Bindings) (x : UInt8) : Prop :=
  ∀ mask, (∀ f, b.flags.get f &&& mask = 0) → x &&& mask = 0

theorem covers_zero (b : Bindings) : b.Covers 0 := fun _ _ => UInt8.zero_and

theorem covers_comparisonFlags (b : Bindings) (x y : UInt8) : b.Covers (comparisonFlags b x y) :=
  fun _ h => comparisonFlags_and_eq_zero_iff.2 fun f _ => h f

theorem flagsOf_eq_nil_iff : b.flagsOf (byteValue mask) = [] ↔ ∀ f, b.flags.get f &&& mask = 0 := by
  unfold flagsOf
  rw [ofInt_byteValue, List.filter_eq_nil_iff]
  simp [Enumerated.mem_all]

theorem conditionText_eq_dash_iff :
    conditionText b mask = "-" ↔ b.flagsOf (byteValue mask) = [] := by
  unfold conditionText
  simp only
  cases b.flagsOf (byteValue mask) with
  | nil => simp
  | cons f fs =>
    -- No flag is called by a dash.
    rw [if_neg (List.cons_ne_nil f fs)]
    refine iff_of_false (fun h => ?_) (List.cons_ne_nil f fs)
    have hc := congrArg String.toList h
    cases f <;> simp [Enumerated.name] at hc

theorem text_eq_dash_iff {target : Operand} :
    (Instruction.jmp mask target).text b = "JMP - " ++ operandText target ↔
      ∀ f, b.flags.get f &&& mask = 0 := by
  have hd : "JMP - " = "JMP " ++ "-" ++ " " := rfl
  rw [← flagsOf_eq_nil_iff, ← conditionText_eq_dash_iff]
  unfold Instruction.text
  simp only [hd, String.append_assoc]
  rw [String.append_right_inj]
  simp

end Bindings

end Yan85
