import Mathlib.Logic.Function.Iterate
import Yan85.Machine.Step

/-! # The ways in which a step can end, and sequences of steps

* `Steps H m r m'`: the step from `m` ends with `r` and leaves `m'`. `step_eq_iff` says that this is
  what `step` computes; proofs about steps are by cases on it.
* `next`, `after`, `outcomes`: steps one after the other, going on after a failed one.
* `after_invariant`: what every step keeps holds in every state that a machine reaches.
-/

namespace Yan85.Machine
set_option autoImplicit false

variable {b : Bindings} {σ : Type} {H : Host σ} {m m' : Machine b σ}

/-! ## One step -/

/-- The machine as the instruction `i` finds it: no accesses recorded, `I` moved on. -/
def begun (m : Machine b σ) (i : Instruction) : Machine b σ := m.clearLogs.advance i

theorem get_begun (m : Machine b σ) (i : Instruction) {q : Register} (hq : q ≠ .I) :
    (m.begun i).registers.get q = m.registers.get q :=
  RegisterFile.get_set_ne m.registers _ hq

/-- The byte that an instruction finds in the register `q`: `I` has moved on. -/
def found (m : Machine b σ) (q : Register) : UInt8 :=
  if q = .I then m.registers.get .I + 1 else m.registers.get q

theorem get_begun_eq_found (m : Machine b σ) (i : Instruction) (q : Register) :
    (m.begun i).registers.get q = m.found q := by
  unfold found
  by_cases hq : q = .I
  · rw [if_pos hq, hq]
    exact RegisterFile.get_set_self m.registers .I _
  · rw [if_neg hq, get_begun m i hq]

theorem fetch_eq_ok_iff {i : Instruction} :
    m.fetch = .ok i ↔ m.program[(m.registers.get .I).toNat]? = some i := by
  unfold fetch
  simp only
  cases m.program[(m.registers.get .I).toNat]? with
  | none => simp
  | some j => simp

theorem kind_of_fetch {f : Fault} (h : m.fetch = .error f) : f.kind = .counterOutside := by
  unfold fetch at h
  simp only at h
  split at h
  · cases h
  · cases h
    rfl

/-- The step from `m` ends with `r` and leaves `m'`. -/
inductive Steps (H : Host σ) (m : Machine b σ) : Except Fault Snapshot → Machine b σ → Prop
  | halted {code : Int} (hx : m.exitCode = some code) : Steps H m (.error (.halt code)) m
  | unfetched {f : Fault} (hx : m.exitCode = none) (hf : m.fetch = .error f) :
      Steps H m (.error f) m.clearLogs
  | done {i : Instruction} {m' : Machine b σ} (hx : m.exitCode = none) (hf : m.fetch = .ok i)
      (he : execute H i (m.begun i) = (.ok (), m')) :
      Steps H m (.ok (conclude (m.registers.get .I) i none m').1)
        (conclude (m.registers.get .I) i none m').2
  | exited {i : Instruction} {code : Int} {m' : Machine b σ} (hx : m.exitCode = none)
      (hf : m.fetch = .ok i) (he : execute H i (m.begun i) = (.error (.halt code), m')) :
      Steps H m
        (.ok (conclude (m.registers.get .I) i (some code) { m' with exitCode := some code }).1)
        (conclude (m.registers.get .I) i (some code) { m' with exitCode := some code }).2
  | failed {i : Instruction} {f : Fault} {m' : Machine b σ} (hx : m.exitCode = none)
      (hf : m.fetch = .ok i) (he : execute H i (m.begun i) = (.error f, m'))
      (hn : ∀ code, f ≠ .halt code) : Steps H m (.error f) m'

theorem steps_step (H : Host σ) (m : Machine b σ) : Steps H m (step H m).1 (step H m).2 := by
  unfold step
  cases hx : m.exitCode with
  | some code => exact .halted hx
  | none =>
    have hc : m.clearLogs.fetch = m.fetch := rfl
    simp only
    rw [hc]
    cases hf : m.fetch with
    | error f => exact .unfetched hx hf
    | ok i =>
      have hb : m.clearLogs.advance i = m.begun i := rfl
      simp only
      rw [hb]
      cases he : execute H i (m.begun i) with
      | mk r m' =>
        cases r with
        | ok u => exact .done hx hf he
        | error f =>
          cases f with
          | halt code => exact .exited hx hf he
          | _ => exact .failed hx hf he (by intro code h; cases h)

theorem Steps.step_eq {r : Except Fault Snapshot} (h : Steps H m r m') : step H m = (r, m') := by
  have hc : m.clearLogs.fetch = m.fetch := rfl
  have hb : ∀ i, m.clearLogs.advance i = m.begun i := fun _ => rfl
  unfold step
  cases h with
  | halted hx => simp only [hx]
  | unfetched hx hf => simp only [hx, hc, hf]
  | done hx hf he =>
    simp only [hx, hc, hf, hb, he]
    rfl
  | exited hx hf he =>
    simp only [hx, hc, hf, hb, he]
    rfl
  | failed hx hf he hn => simp only [hx, hc, hf, hb, he]

theorem step_eq_iff {r : Except Fault Snapshot} : step H m = (r, m') ↔ Steps H m r m' := by
  constructor
  · intro h
    have hs := steps_step H m
    rw [h] at hs
    exact hs
  · exact Steps.step_eq

/-- The step from `m` fails with a fault of the kind `k`. -/
def Raises (H : Host σ) (m : Machine b σ) (k : FaultKind) : Prop :=
  ∃ f, (step H m).1 = .error f ∧ f.kind = k

theorem Raises.steps {k : FaultKind} (h : Raises H m k) :
    ∃ f m', Steps H m (.error f) m' ∧ f.kind = k := by
  obtain ⟨f, hs, hk⟩ := h
  refine ⟨f, (step H m).2, ?_, hk⟩
  rw [← hs]
  exact steps_step H m

theorem not_halt {f : Fault} : f.kind ≠ .halt ↔ ∀ code, f ≠ .halt code := by
  constructor
  · rintro h code rfl
    exact h rfl
  · intro h hk
    cases f with
    | halt code => exact h code rfl
    | binding g => cases g <;> cases hk
    | sleepRefused g => obtain hv | hv := Fault.kind_sleepRefused g <;> cases hv.symm.trans hk
    | _ => cases hk

/-- Where there is an instruction to carry out, a step fails as the instruction does. -/
theorem raises_iff {i : Instruction} {k : FaultKind} (hx : m.exitCode = none)
    (hf : m.fetch = .ok i) :
    Raises H m k ↔
      ∃ f m', execute H i (m.begun i) = (.error f, m') ∧ f.kind = k ∧ k ≠ .halt := by
  constructor
  · intro h
    obtain ⟨f, m', hs, rfl⟩ := h.steps
    cases hs with
    | halted hx' =>
      rw [hx] at hx'
      cases hx'
    | unfetched _ hf' =>
      rw [hf] at hf'
      cases hf'
    | failed _ hf' he hn =>
      rw [hf] at hf'
      cases hf'
      exact ⟨f, m', he, rfl, not_halt.2 hn⟩
  · rintro ⟨f, m', he, rfl, hn⟩
    exact ⟨f, congrArg Prod.fst (Steps.failed hx hf he (not_halt.1 hn)).step_eq, rfl⟩

theorem exists_fetch {k : FaultKind} (h : Raises H m k) (hh : k ≠ .halt)
    (hc : k ≠ .counterOutside) : m.exitCode = none ∧ ∃ i, m.fetch = .ok i := by
  obtain ⟨f, m', hs, rfl⟩ := h.steps
  cases hs with
  | halted => exact absurd rfl hh
  | unfetched _ hf => exact absurd (kind_of_fetch hf) hc
  | failed hx hf => exact ⟨hx, _, hf⟩

/-! ## Many steps -/

/-- The state that a step leaves, whether it succeeds or fails. -/
def next (H : Host σ) (m : Machine b σ) : Machine b σ := (step H m).2

/-- What holds however a step ends holds of the state that it leaves. -/
theorem next_of_steps {P : Machine b σ → Prop} (h : ∀ r m', Steps H m r m' → P m') :
    P (next H m) :=
  h _ _ (steps_step H m)

/-- The state after `n` steps, of which any may have failed. -/
def after (H : Host σ) (n : Nat) (m : Machine b σ) : Machine b σ := (next H)^[n] m

/-- The results of `n` steps. -/
def outcomes (H : Host σ) : Nat → Machine b σ → List (Except Fault Snapshot)
  | 0, _ => []
  | n + 1, m => (step H m).1 :: outcomes H n (next H m)

@[simp] theorem after_zero (m : Machine b σ) : after H 0 m = m := rfl

theorem after_succ (n : Nat) (m : Machine b σ) : after H (n + 1) m = after H n (next H m) :=
  Function.iterate_succ_apply (next H) n m

theorem after_succ' (n : Nat) (m : Machine b σ) : after H (n + 1) m = next H (after H n m) :=
  Function.iterate_succ_apply' (next H) n m

theorem after_invariant {P : Machine b σ → Prop} (hP : ∀ m, P m → P (next H m)) (n : Nat)
    (h : P m) : P (after H n m) := by
  induction n with
  | zero => exact h
  | succ n ih =>
    -- The last step is split off: the state before it is the one that `ih` speaks of.
    rw [after_succ']
    exact hP _ ih

end Yan85.Machine
