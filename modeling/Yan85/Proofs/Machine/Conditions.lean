import Yan85.Proofs.Machine.Comparisons
import Yan85.Proofs.Machine.Destinations

/-! # Jumps that are listed with no condition

* `Compares H m`, `Overwrites H m`: the step from `m` sets `F`, by a comparison or by something
  else.
* `covers_after`: `F` has no bits but those of flags, unless it was `LastOverwritten`: set by
  something else than a comparison, and not set since.
* `goesTo_next_iff`: when a jump goes on to the instruction behind it.
* `jump_listed_with_dash`: a jump that is listed with a dash goes on unless something else than a
  comparison was the last to set `F`.
-/

namespace Yan85.Machine
set_option autoImplicit false

variable {b : Bindings} {σ : Type} {H : Host σ} {m : Machine b σ} {mask : UInt8}

/-! ## What sets `F` -/

/-- The step carries out a comparison. -/
def Compares (H : Host σ) (m : Machine b σ) : Prop := ∃ left right, Performs H m (.cmp left right)

/-- The step carries out an instruction that sets `F` and is no comparison. -/
def Overwrites (H : Host σ) (m : Machine b σ) : Prop :=
  ∃ i, Performs H m i ∧ i.destination = some .F ∧ ∀ left right, i ≠ .cmp left right

theorem covers_next (h : Compares H m) : b.Covers ((next H m).registers.get .F) := by
  obtain ⟨left, right, hx, hf, he⟩ := h
  cases left with
  | none => cases he
  | some l =>
    cases right with
    | none => cases he
    | some r =>
      obtain ⟨snapshot, m', hst, -, -, -, hF⟩ := step_cmp H hx (fetch_eq_ok_iff.1 hf)
      have hn : next H m = m' := congrArg Prod.snd hst
      rw [hn, hF]
      exact b.covers_comparisonFlags _ _

theorem get_next_of_not (hc : ¬ Compares H m) (ho : ¬ Overwrites H m) :
    (next H m).registers.get .F = m.registers.get .F := by
  obtain h | ⟨i, hp, hd⟩ := get_next H m (q := .F) (by decide) (by decide)
  · exact h
  · exfalso
    refine ho ⟨i, hp, hd, fun left right hi => hc ⟨left, right, ?_⟩⟩
    rw [← hi]
    exact hp

/-- Of the first `n` steps, the last one that sets `F` carries out something else than a
comparison. -/
def LastOverwritten (H : Host σ) (n : Nat) (m : Machine b σ) : Prop :=
  ∃ k < n, Overwrites H (after H k m) ∧
    ∀ j, k < j → j < n → ¬ Compares H (after H j m) ∧ ¬ Overwrites H (after H j m)

theorem covers_after (h0 : m.registers.get .F = 0) (n : Nat) :
    b.Covers ((after H n m).registers.get .F) ∨ LastOverwritten H n m := by
  induction n with
  | zero =>
    rw [after_zero, h0]
    exact .inl b.covers_zero
  | succ n ih =>
    rw [after_succ']
    by_cases hc : Compares H (after H n m)
    · exact .inl (covers_next hc)
    by_cases ho : Overwrites H (after H n m)
    · exact .inr ⟨n, by omega, ho, fun j hj hj' => by omega⟩
    -- The last step has not set `F`, and is no comparison either.
    rw [get_next_of_not hc ho]
    obtain h | ⟨k, hk, hko, hkc⟩ := ih
    · exact .inl h
    · refine .inr ⟨k, by omega, hko, fun j hj hj' => ?_⟩
      obtain hj' | rfl := Nat.lt_succ_iff_lt_or_eq.1 hj'
      · exact hkc j hj hj'
      · exact ⟨hc, ho⟩

/-! ## The jump -/

theorem execute_jmp_none (hF : m.registers.get .F &&& mask ≠ 0) :
    execute H (.jmp mask none) m = (.error .noOperand, m) := by
  simp only [execute]
  rw [Action.bind_apply_ok (readOperand_some .F m), if_pos hF]
  rfl

theorem goesTo_next_iff {target : Operand}
    (hi : m.program[(m.registers.get .I).toNat]? = some (.jmp mask target)) :
    GoesTo H m (m.registers.get .I + 1) ↔ m.exitCode = none ∧
      (m.registers.get .F &&& mask = 0 ∨
        ∃ r, target = some r ∧ m.found r = m.registers.get .I + 1) := by
  constructor
  · intro h
    have hx := h.running
    refine ⟨hx, ?_⟩
    by_cases hF : m.registers.get .F &&& mask = 0
    · exact .inl hF
    cases target with
    | none =>
      -- A jump that is taken needs a target.
      obtain ⟨snapshot, m', hst, -⟩ := h
      rw [← get_begun m (.jmp mask none) (by decide)] at hF
      have he := execute_jmp_none (H := H) hF
      rw [(Steps.failed hx (fetch_eq_ok_iff.2 hi) he (by simp)).step_eq] at hst
      cases hst
    | some r =>
      have hgo := goesTo_jmp (H := H) hx hi
      rw [if_pos hF] at hgo
      exact .inr ⟨r, rfl, hgo.get_next.symm.trans h.get_next⟩
  · rintro ⟨hx, hF | ⟨r, rfl, hr⟩⟩
    · exact goesTo_next hx hi hF
    · have hgo := goesTo_jmp (H := H) hx hi
      rw [hr, ite_self] at hgo
      exact hgo

/-- **A jump that is listed with a dash goes on unless something else than a comparison was the last
to set `F`.** While the machine has not exited, the jump goes on and changes nothing but `I` exactly
if its mask selects nothing from `F` or its target is the instruction behind it. That the mask is
listed with a dash makes sure of this where `F` is still zero or holds a comparison; an instruction
of another kind may have put bits into `F` that belong to no flag. -/
theorem jump_listed_with_dash (H : Host σ) (m : Machine b σ) (h0 : m.registers.get .F = 0) (n : Nat)
    (target : Operand)
    (hi : (after H n m).program[((after H n m).registers.get .I).toNat]? = some (.jmp mask target))
    (hd : (Instruction.jmp mask target).text b = "JMP - " ++ operandText target) :
    (GoesTo H (after H n m) ((after H n m).registers.get .I + 1) ↔
      (after H n m).exitCode = none ∧ ((after H n m).registers.get .F &&& mask = 0 ∨
        ∃ r, target = some r ∧ (after H n m).found r = (after H n m).registers.get .I + 1)) ∧
    ((after H n m).registers.get .F &&& mask ≠ 0 → LastOverwritten H n m) := by
  refine ⟨goesTo_next_iff hi, fun hF => ?_⟩
  obtain hc | ho := covers_after (H := H) h0 n
  · exact absurd (hc mask (Bindings.text_eq_dash_iff.1 hd)) hF
  · exact ho

/-- A machine whose third instruction is a jump on a bit that belongs to no flag. -/
def dashed (first : Instruction) : Machine .standard Simulated :=
  .fresh .standard [first, .imm (some .A) 7, .jmp 0x20 (some .A)] (.ofSize .main 0) true .empty

/-- After a comparison this jump goes on. -/
theorem dashed_goes_on :
    (dashed (.cmp (some .A) (some .B))).registers.get .F = 0 ∧
      (Instruction.jmp 0x20 (some .A)).text .standard = "JMP - " ++ operandText (some .A) ∧
      GoesTo Simulated.host (after Simulated.host 2 (dashed (.cmp (some .A) (some .B)))) 3 := by
  have h0 : (dashed (.cmp (some .A) (some .B))).registers.get .F = 0 := RegisterFile.get_zero .F
  have hd : (Instruction.jmp 0x20 (some .A)).text .standard = "JMP - " ++ operandText (some .A) :=
    Bindings.text_eq_dash_iff.2 fun f => by cases f <;> decide
  obtain ⟨hgo, -⟩ := jump_listed_with_dash Simulated.host (dashed (.cmp (some .A) (some .B))) h0 2
    (some .A) (by decide +kernel) hd
  have hI : (after Simulated.host 2
      (dashed (.cmp (some .A) (some .B)))).registers.get .I + 1 = 3 := by
    decide +kernel
  rw [hI] at hgo
  exact ⟨h0, hd, hgo.2 ⟨by decide +kernel, .inl (by decide +kernel)⟩⟩

/-- After an `imm` into `F` it is taken. -/
theorem dashed_jumps :
    (dashed (.imm (some .F) 0x20)).registers = .zero .standard ∧
      (Instruction.jmp 0x20 (some .A)).text .standard = "JMP - A" ∧
      let m := after Simulated.host 2 (dashed (.imm (some .F) 0x20))
      m.program[(m.registers.get .I).toNat]? = some (.jmp 0x20 (some .A)) ∧
        m.registers.get .I = 2 ∧ GoesTo Simulated.host m 7 ∧ ¬ GoesTo Simulated.host m 3 := by
  have hd : (Instruction.jmp 0x20 (some .A)).text .standard = "JMP - A" :=
    Bindings.text_eq_dash_iff.2 fun f => by cases f <;> decide
  refine ⟨rfl, hd, ?_⟩
  intro m
  have hI : m.registers.get .I = 2 := by decide +kernel
  have hi : m.program[(m.registers.get .I).toNat]? = some (.jmp 0x20 (some .A)) := by decide +kernel
  have hgo := goesTo_jmp (H := Simulated.host) (m := m) (by decide +kernel) hi
  have hF : m.registers.get .F &&& 0x20 ≠ 0 := by decide +kernel
  have hA : m.found .A = 7 := by decide +kernel
  rw [if_pos hF, hA] at hgo
  refine ⟨hi, hI, hgo, fun h => ?_⟩
  have he := hgo.get_next.symm.trans h.get_next
  exact absurd he (by decide)

end Yan85.Machine
