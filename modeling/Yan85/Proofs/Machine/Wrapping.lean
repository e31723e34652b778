import Yan85.Proofs.Machine.Evolution
import Yan85.Proofs.Machine.Runs
import Yan85.Proofs.Machine.Twins

/-! # Strict stacks and stacks that wrap

* `withWraps`: the same machine with a stack of the one kind or the other.
* `Unbounded x`: the action `x` never finds the end of a stack that wraps. `execute_unbounded` says
  this of every instruction.
* `wrapping_refines_strict`: a machine whose stack wraps does what the strict one does as long as the
  strict one has not found the end of its stack.
-/

namespace Yan85.Machine
set_option autoImplicit false

variable {b : Bindings} {σ α β : Type} {H : Host σ} {m m' : Machine b σ}

/-- The machine with a stack that wraps or is strict, and with nothing else changed. -/
def withWraps (m : Machine b σ) (wraps : Bool) : Machine b σ :=
  { m with stack := { m.stack with wraps := wraps } }

theorem twins_withWraps (m : Machine b σ) :
    Twins Eq True (m.withWraps false) (m.withWraps true) where
  program := rfl
  registers := fun _ => rfl
  memory := rfl
  stack := rfl
  wraps := .inr ⟨trivial, rfl⟩
  descriptors := rfl
  host := rfl
  steps := rfl
  exitCode := rfl
  observed := rfl
  diagnostics := rfl

/-! ## A stack that wraps has no end -/

/-- Where the stack wraps, it does not refuse the action, and it wraps afterwards. -/
def Unbounded (x : Action (Machine b σ) α) : Prop :=
  ∀ m : Machine b σ, m.stack.wraps = true → ¬ StackFault (x m).1 ∧ (x m).2.stack.wraps = true

theorem not_stackFault_of_kind {f : Fault} {kinds : List FaultKind} (h : f.kind ∈ kinds)
    (ho : .stackOverflow ∉ kinds) (hu : .stackUnderflow ∉ kinds) :
    ¬ StackFault (.error f : Except Fault α) := by
  rintro (hk | hk)
  · exact ho (hk ▸ h)
  · exact hu (hk ▸ h)

theorem Unbounded.bind {x : Action (Machine b σ) α} {g : α → Action (Machine b σ) β}
    (hx : Unbounded x) (hg : ∀ a, Unbounded (g a)) : Unbounded (x >>= g) := by
  intro m hw
  have h := hx m hw
  cases hr : x m with
  | mk r m1 =>
    rw [hr] at h
    cases r with
    | error f =>
      rw [Action.bind_apply_error hr]
      exact h
    | ok a =>
      rw [Action.bind_apply_ok hr]
      exact hg a m1 h.2

theorem unbounded_writeOperand (o : Operand) (v : Int) :
    Unbounded (writeOperand o v : Action (Machine b σ) Unit) := by
  intro m hw
  unfold writeOperand
  cases o with
  | none => exact ⟨by simp [StackFault, Fault.kind], hw⟩
  | some r =>
    unfold RegisterFile.write
    cases byte? v with
    | none => exact ⟨by simp [StackFault, Fault.kind], hw⟩
    | some x => exact ⟨id, hw⟩

theorem unbounded_read (a : Int) :
    Unbounded (onMemory fun mem => mem.read a : Action (Machine b σ) UInt8) := by
  intro m hw
  simp only [onMemory]
  cases hr : m.memory.read a with
  | error f => exact ⟨by simp [StackFault, kind_of_memory_read hr], hw⟩
  | ok p => exact ⟨id, hw⟩

theorem unbounded_write (a v : Int) :
    Unbounded (changeMemory fun mem => mem.write a v : Action (Machine b σ) Unit) := by
  intro m hw
  simp only [changeMemory]
  cases hr : m.memory.write a v with
  | error f =>
    obtain hk | hk := kind_of_memory_write hr
    · exact ⟨by simp [StackFault, hk], hw⟩
    · exact ⟨by simp [StackFault, hk], hw⟩
  | ok mem => exact ⟨id, hw⟩

theorem unbounded_push (v : Int) :
    Unbounded (onStack (Stack.push v) : Action (Machine b σ) Unit) := by
  intro m hw
  have hf : ¬ m.stack.Full m.registers := fun hf => by cases hw.symm.trans hf.2
  unfold onStack
  rw [Action.on_apply]
  unfold Stack.push
  simp only
  rw [if_neg hf]
  cases hr : m.stack.memory.write (byteValue (m.registers.get .S)) v with
  | error f =>
    obtain hk | hk := kind_of_memory_write hr
    · exact ⟨by simp [StackFault, hk], hw⟩
    · exact ⟨by simp [StackFault, hk], hw⟩
  | ok mem => exact ⟨id, hw⟩

theorem unbounded_pop : Unbounded (onStack Stack.pop : Action (Machine b σ) UInt8) := by
  intro m hw
  have he : ¬ m.stack.Empty m.registers := fun he => by cases hw.symm.trans he.2
  unfold onStack
  rw [Action.on_apply]
  unfold Stack.pop
  simp only
  rw [if_neg he]
  cases hr : m.stack.memory.read (byteValue (m.registers.get .S - 1)) with
  | error f => exact ⟨by simp [StackFault, kind_of_memory_read hr], hw⟩
  | ok p => exact ⟨id, hw⟩

theorem closed_unbounded : Closed (fun x : Action (Machine b σ) _ => Unbounded x) where
  pure := fun a m hw => ⟨id, hw⟩
  bind := .bind
  readOperand := by
    intro o m hw
    cases o with
    | none => exact ⟨by simp [readOperand, StackFault, Fault.kind], hw⟩
    | some r => exact ⟨id, hw⟩
  writeOperand := unbounded_writeOperand
  read := unbounded_read
  write := unbounded_write
  push := unbounded_push
  pop := unbounded_pop

theorem dispatch_unbounded (H : Host σ) (code x y z : Int) :
    Unbounded (dispatch H code x y z : Action (Machine b σ) Int) := by
  intro m hw
  cases hd : dispatch H code x y z m with
  | mk r m' =>
    obtain ⟨-, rfl, rfl⟩ | ⟨s, -, hc⟩ := dispatch_cases hd
    · exact ⟨by simp [StackFault, Fault.kind], hw⟩
    · refine ⟨?_, hc.evolves.wraps.trans hw⟩
      cases r with
      | ok v => exact id
      | error f => exact not_stackFault_of_kind hc.kind_mem (by decide) (by decide)

theorem execute_unbounded (H : Host σ) (i : Instruction) :
    Unbounded (execute H i : Action (Machine b σ) Unit) := by
  refine execute_of_closed closed_unbounded H ?_ ?_
  · intro number result _ x y z
    exact dispatch_unbounded H _ x y z
  · intro _ m hw
    exact ⟨by simp [StackFault, Fault.kind], hw⟩

/-! ## Steps and runs -/

theorem step_unbounded (H : Host σ) (hw : m.stack.wraps = true) : ¬ StackFault (step H m).1 := by
  cases hs : step H m with
  | mk r m' =>
    cases step_eq_iff.1 hs with
    | done | exited => exact id
    | halted => simp [StackFault, Fault.kind]
    | unfetched _ hf => simp [StackFault, kind_of_fetch hf]
    | @failed i f _ hx hf he hn =>
      have hu := (execute_unbounded H i (m.begun i) hw).1
      rw [he] at hu
      exact hu

theorem wraps_after (H : Host σ) (n : Nat) (hw : m.stack.wraps = true) :
    (after H n m).stack.wraps = true :=
  (keeps_after H n m).wraps.trans hw

theorem outcomes_unbounded (H : Host σ) (n : Nat) (hw : m.stack.wraps = true) :
    ∀ r ∈ outcomes H n m, ¬ StackFault r := by
  induction n generalizing m with
  | zero =>
    intro r hr
    cases hr
  | succ n ih =>
    intro r hr
    obtain rfl | hr := List.mem_cons.1 hr
    · exact step_unbounded H hw
    · exact ih (wraps_after H 1 hw) r hr

theorem run_unbounded {limit : Option Int} {r : Except Fault Int} (hw : m.stack.wraps = true)
    (h : Ends H limit m r m') : ¬ StackFault r := by
  obtain ⟨j, -, -, hf⟩ := h.exists_after
  cases r with
  | ok code => exact id
  | error f =>
    obtain hk | ⟨k, hs⟩ := hf f rfl
    · simp [StackFault, hk]
    · have hu := step_unbounded H (wraps_after H k hw)
      rw [hs] at hu
      exact hu

/-- **A stack that wraps is no worse than a strict one.** Take a machine in any state, once with a
strict stack and once with one that wraps.
* As long as no step of the strict one is refused by the stack, the steps of both end alike, and the
  machines they leave are the same but for the kind of their stack.
* No step and no run of the other one is ever refused by the stack. -/
theorem wrapping_refines_strict (H : Host σ) (m : Machine b σ) (n : Nat) :
    ((∀ r ∈ outcomes H n (m.withWraps false), ¬ StackFault r) →
      outcomes H n (m.withWraps true) = outcomes H n (m.withWraps false) ∧
      Twins Eq True (after H n (m.withWraps false)) (after H n (m.withWraps true))) ∧
    (∀ r ∈ outcomes H n (m.withWraps true), ¬ StackFault r) ∧
    ∀ limit r m', Ends H limit (m.withWraps true) r m' → ¬ StackFault r := by
  have hw : (m.withWraps true).stack.wraps = true := rfl
  refine ⟨fun hs => ?_, outcomes_unbounded H n hw, fun limit r m' => run_unbounded hw⟩
  exact (twins_withWraps m).after (.refl b) (.refl H) n (fun _ _ _ => rfl) fun _ => hs

/-- A machine that sets its stack pointer to the last cell, pops from there and exits. -/
def descending : Machine .standard Simulated :=
  .fresh .standard [.imm (some .S) 0xFF, .stk (some .A) none, .sys 0x20 none]
    (.ofSize .main addressSpaceSize) false .empty

/-- It does so on a strict stack too, although nothing was pushed before. -/
theorem descending_alike :
    (∀ r ∈ outcomes Simulated.host 3 (descending.withWraps false), ¬ StackFault r) ∧
      outcomes Simulated.host 3 (descending.withWraps true) =
        outcomes Simulated.host 3 (descending.withWraps false) := by
  have hs : ∀ r ∈ outcomes Simulated.host 3 (descending.withWraps false), ¬ StackFault r := by
    decide +kernel
  exact ⟨hs, ((wrapping_refines_strict Simulated.host descending 3).1 hs).1⟩

end Yan85.Machine
