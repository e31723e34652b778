import Yan85.Proofs.Bindings.Flags
import Yan85.Proofs.Machine.Failure

/-! # Comparisons and the jumps on them

* `GoesTo H m x`: the step from `m` puts the byte `x` into `I` and changes nothing else.
  `goesTo_jmp` says where a jump goes, and `goesTo_next` that a jump whose condition selects nothing
  from `F` goes on, whatever its target.
* `step_cmp`, `flagState_comparison`: the step of a comparison, and what a machine reports of it.
* `jump_after_comparison`: a comparison and then a jump on some flags are a jump on the relations
  that these flags stand for.
-/

namespace Yan85.Machine
set_option autoImplicit false

variable {b : Bindings} {σ : Type} {H : Host σ} {m m' : Machine b σ} {mask x y : UInt8}

/-! ## Jumps -/

/-- The step succeeds, and beside the number of steps it changes only `I`, which becomes `x`. -/
def GoesTo (H : Host σ) (m : Machine b σ) (x : UInt8) : Prop :=
  ∃ snapshot m', step H m = (.ok snapshot, m') ∧
    m'.core = { m.core.assign .I x with steps := m.steps + 1 } ∧ m'.host = m.host

theorem GoesTo.get_next (h : GoesTo H m x) : (next H m).registers.get .I = x := by
  obtain ⟨snapshot, m', hst, hc, -⟩ := h
  have hn : next H m = m' := congrArg Prod.snd hst
  have hr : m'.registers = m.registers.set .I x :=
    congrArg (fun m : Machine b Unit => m.registers) hc
  rw [hn, hr, RegisterFile.get_set_self]

theorem GoesTo.running (h : GoesTo H m x) : m.exitCode = none := by
  obtain ⟨snapshot, m', hst, -⟩ := h
  cases hx : m.exitCode with
  | none => rfl
  | some code =>
    rw [(Steps.halted hx).step_eq] at hst
    cases hst

theorem goesTo_next (hx : m.exitCode = none) {target : Operand}
    (hi : m.program[(m.registers.get .I).toNat]? = some (.jmp mask target))
    (hF : m.registers.get .F &&& mask = 0) : GoesTo H m (m.registers.get .I + 1) := by
  have he : execute H (.jmp mask target) (m.begun (.jmp mask target)) =
      (.ok (), m.begun (.jmp mask target)) := by
    simp only [execute]
    rw [Action.bind_apply_ok (readOperand_some .F _), get_begun m _ (by decide), hF]
    rfl
  exact ⟨_, _, (Steps.done hx (fetch_eq_ok_iff.2 hi) he).step_eq, rfl, rfl⟩

theorem goesTo_jmp (hx : m.exitCode = none) {target : Register}
    (hi : m.program[(m.registers.get .I).toNat]? = some (.jmp mask (some target))) :
    GoesTo H m
      (if m.registers.get .F &&& mask ≠ 0 then m.found target else m.registers.get .I + 1) := by
  by_cases hF : m.registers.get .F &&& mask = 0
  · rw [if_neg (not_not.2 hF)]
    exact goesTo_next hx hi hF
  · have he := execute_jmp (H := H) (m := m.begun (.jmp mask (some target))) mask target
    rw [get_begun m _ (by decide : (Register.F : Register) ≠ .I), get_begun_eq_found,
      if_pos hF] at he
    rw [if_pos hF]
    -- The target overwrites the advance of `I`.
    have hset := RegisterFile.set_set m.registers .I (m.registers.get .I + 1) (m.found target)
    have hcore := congrArg (fun rf => { m.core with registers := rf, steps := m.steps + 1 }) hset
    exact ⟨_, _, (Steps.done hx (fetch_eq_ok_iff.2 hi) he).step_eq, hcore, rfl⟩

/-! ## Comparisons -/

theorem step_cmp (H : Host σ) {left right : Register} (hx : m.exitCode = none)
    (hi : m.program[(m.registers.get .I).toNat]? = some (.cmp (some left) (some right))) :
    ∃ snapshot m', step H m = (.ok snapshot, m') ∧ m'.program = m.program ∧ m'.exitCode = none ∧
      m'.registers.get .I = m.registers.get .I + 1 ∧
      m'.registers.get .F = comparisonFlags b (m.found left) (m.found right) := by
  have he := execute_cmp (H := H) (m := m.begun (.cmp (some left) (some right))) left right
  rw [get_begun_eq_found, get_begun_eq_found] at he
  refine ⟨_, _, (Steps.done hx (fetch_eq_ok_iff.2 hi) he).step_eq, rfl, hx, ?_,
    RegisterFile.get_set_self _ .F _⟩
  exact (RegisterFile.get_set_ne _ _ (by decide)).trans (RegisterFile.get_set_self _ .I _)

/-- Where `F` holds a comparison, the flags that are reported are those that tell the truth. -/
theorem flagState_comparison (hb : b.Separate) {rf : RegisterFile b}
    (hF : rf.get .F = comparisonFlags b x y) :
    rf.flagState = b.flags.entries.map fun e => (e.1, decide (e.1.Tells x y)) := by
  unfold RegisterFile.flagState
  refine List.map_congr_left fun e he => ?_
  have hsel : comparisonFlags b x y &&& b.maskOf [e.1] ≠ 0 ↔ ∃ f ∈ [e.1], f.Tells x y :=
    hb.select_comparison_iff
  simp only [List.mem_singleton, exists_eq_left] at hsel
  have hm : b.maskOf [e.1] = e.2 := UInt8.or_zero.trans (Table.eq_get_of_mem he).symm
  rw [hm] at hsel
  rw [hF, Prod.mk.injEq, Bool.eq_iff_iff, bne_iff_ne, decide_eq_true_iff]
  exact ⟨rfl, hsel⟩

/-- **A comparison and then a jump on some flags are a jump on what these flags stand for.** After
the comparison, whatever `F` held before, the machine reports those flags that tell the truth about
the two bytes. If the jump that comes next names one of them, it goes to its target, and if not, to
the instruction behind it. -/
theorem jump_after_comparison (hb : b.Separate) (H : Host σ) (m : Machine b σ)
    (hx : m.exitCode = none) (left right : Register)
    (hi : m.program[(m.registers.get .I).toNat]? = some (.cmp (some left) (some right))) :
    ∃ snapshot m', step H m = (.ok snapshot, m') ∧
      m'.registers.get .I = m.registers.get .I + 1 ∧
      m'.registers.flagState = b.flags.entries.map
        (fun e => (e.1, decide (e.1.Tells (m.found left) (m.found right)))) ∧
      ∀ (fs : List Flag) (target : Register),
        m.program[(m.registers.get .I + 1).toNat]? = some (.jmp (b.maskOf fs) (some target)) →
          GoesTo H m' (if ∃ f ∈ fs, f.Tells (m.found left) (m.found right) then m'.found target
            else m'.registers.get .I + 1) := by
  obtain ⟨snapshot, m', hst, hp, hx', hI, hF⟩ := step_cmp H hx hi
  refine ⟨snapshot, m', hst, hI, flagState_comparison hb hF, fun fs target hj => ?_⟩
  rw [← hp, ← hI] at hj
  have hgo := goesTo_jmp (H := H) hx' hj
  rw [hF] at hgo
  simp only [hb.select_comparison_iff] at hgo
  exact hgo

/-- A machine about to compare 3 with 7 and to jump to 0x10 if that is less or equal. -/
def comparing : Machine .standard Simulated :=
  { fresh .standard [.cmp (some .A) (some .B), .jmp 0x0C (some .C)] (.ofSize .main 0) true
      .empty with
    registers := (((RegisterFile.zero .standard).set .A 3).set .B 7).set .C 0x10 }

/-- The comparison reports that 3 is less than 7 and different from it, and the jump is taken. -/
theorem comparing_jumps :
    Bindings.standard.Separate ∧ comparing.exitCode = none ∧
      ∃ snapshot m', step Simulated.host comparing = (.ok snapshot, m') ∧
        m'.registers.flagState =
          [(.less, true), (.greater, false), (.equal, false), (.bothZero, false),
            (.unequal, true)] ∧
        GoesTo Simulated.host m' (m'.found .C) := by
  have hA : comparing.found .A = 3 := by simp [found, comparing, RegisterFile.get_set]
  have hB : comparing.found .B = 7 := by simp [found, comparing, RegisterFile.get_set]
  have hI : comparing.registers.get .I = 0 := by simp [comparing, RegisterFile.get_set]
  have hi : comparing.program[(comparing.registers.get .I).toNat]? =
      some (.cmp (some .A) (some .B)) := by
    rw [hI]
    rfl
  have hnext : comparing.program[(comparing.registers.get .I + 1).toNat]? =
      some (.jmp (Bindings.standard.maskOf [.less, .equal]) (some .C)) := by
    rw [hI]
    rfl
  obtain ⟨snapshot, m', hst, -, hs, hj⟩ :=
    jump_after_comparison Bindings.separate_standard Simulated.host comparing rfl .A .B hi
  rw [hA, hB] at hs hj
  refine ⟨Bindings.separate_standard, rfl, snapshot, m', hst, hs, ?_⟩
  have hgo := hj [.less, .equal] .C hnext
  rw [if_pos (by decide)] at hgo
  exact hgo

end Yan85.Machine
