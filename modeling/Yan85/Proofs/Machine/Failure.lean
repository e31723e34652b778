import Yan85.Bindings.Standard
import Yan85.Host.Simulated
import Yan85.Proofs.Machine.Faults

/-! # A failing step leaves the machine as it was

* `core`: a machine without the records of its memories, its host and what an observer has seen.
* `Fails.core_eq`: an instruction that fails has changed nothing of the core.
* `core_of_failed_step`: a step that fails has changed nothing of the core but `I`, and not even `I`
  where there was no instruction to carry out.
-/

namespace Yan85.Machine
set_option autoImplicit false

variable {b : Bindings} {σ : Type} {H : Host σ} {m m' : Machine b σ}

/-- The machine without the records of its memories, its host and its observer. -/
def core (m : Machine b σ) : Machine b Unit where
  program := m.program
  registers := m.registers
  memory := m.memory.takeLog.2
  stack := { m.stack with memory := m.stack.memory.takeLog.2 }
  descriptors := m.descriptors
  host := ()
  steps := m.steps
  exitCode := m.exitCode
  observed := .empty
  diagnostics := .empty

theorem core_begun (m : Machine b σ) (i : Instruction) :
    (m.begun i).core = m.core.assign .I (m.registers.get .I + 1) := rfl

theorem Calls.core_eq {x y z : Int} {s : Syscall} {f : Fault}
    (h : Calls H m x y z s (.error f) m') : m'.core = m.core := by
  cases h with
  | openRefused hp | openedTooHigh hp | openedStuck hp =>
    obtain ⟨i, -, -, -, rfl⟩ := Memory.readString_eq_ok_iff.1 hp
    rfl
  | writeRefused hr =>
    obtain ⟨i, k, -, -, -, -, rfl⟩ := Memory.readRange_eq_ok_iff.1 hr
    rfl
  | _ => rfl

/-- Only a host that gives more than it was asked for can make a system call succeed whose result
does not fit into its register. -/
theorem Fails.core_eq {i : Instruction} {f : Fault} (h : Fails H m i f m')
    (hH : f.kind = .invalidOperand → H.Honest) : m'.core = m.core := by
  cases h with
  | outside | full | empty => rfl
  | refused hc =>
    obtain ⟨-, -, rfl⟩ | ⟨s, -, hc⟩ := dispatch_cases hc
    · rfl
    · exact hc.core_eq
  | unfit hc hv =>
    obtain ⟨x, hx⟩ := call_fits (hH rfl) hc
    exact absurd hx (hv x)

theorem core_of_step (hs : m.stack.memory.size = addressSpaceSize)
    (hp : ∀ i ∈ m.program, i.IsProper) {f : Fault} (h : step H m = (.error f, m'))
    (hH : f.kind = .invalidOperand → H.Honest) :
    m'.core = if f.kind = .halt ∨ f.kind = .counterOutside then m.core
      else m.core.assign .I (m.registers.get .I + 1) := by
  cases step_eq_iff.1 h with
  | halted hx => rw [if_pos (.inl rfl)]
  | unfetched hx hf =>
    rw [if_pos (.inr (kind_of_fetch hf))]
    rfl
  | failed hx hf he hn =>
    have hi := hp _ (List.mem_of_getElem? (fetch_eq_ok_iff.1 hf))
    have hF := execute_fails (m := m.begun _) hs hi he
    rw [if_neg (not_or.2 ⟨not_halt.2 hn, hF.kind_ne⟩), hF.core_eq hH, core_begun]

/-- **A failing step leaves the machine as it was.** Whatever a program of proper instructions has
done before, a step that fails changes no register but `I`, no cell, no instruction, no descriptor,
and neither the number of steps nor the exit; `I` moves on unless the machine has exited or there is
no instruction at `I`. -/
theorem core_of_failed_step (H : Host σ) (m : Machine b σ)
    (hs : m.stack.memory.size = addressSpaceSize) (hp : ∀ i ∈ m.program, i.IsProper) (n : Nat)
    {f : Fault} {m' : Machine b σ} (h : step H (after H n m) = (.error f, m'))
    (hH : f.kind = .invalidOperand → H.Honest) :
    m'.core = if f.kind = .halt ∨ f.kind = .counterOutside then (after H n m).core
      else (after H n m).core.assign .I ((after H n m).registers.get .I + 1) := by
  have hk := keeps_after H n m
  exact core_of_step (hk.stackSize.trans hs) (hk.proper hp) h hH

/-- A strict machine about to pop from its empty stack. -/
def popping : Machine .standard Simulated :=
  .fresh .standard [.stk (some .A) none] (.ofSize .main addressSpaceSize) false .empty

/-- The refused pop has moved `I` on and has done nothing else. -/
theorem popping_fails :
    ∃ m', step Simulated.host popping = (.error .stackUnderflow, m') ∧
      m'.core = popping.core.assign .I 1 := by
  have hs : popping.stack.memory.size = addressSpaceSize := Memory.size_ofSize .stack _
  have hI : popping.registers.get .I = 0 := RegisterFile.get_zero .I
  have hf : popping.fetch = .ok (.stk (some .A) none) := fetch_eq_ok_iff.2 (by rw [hI]; rfl)
  have hE : (popping.begun (.stk (some .A) none)).stack.Empty
      (popping.begun (.stk (some .A) none)).registers :=
    ⟨by simp [begun, advance, clearLogs, popping, fresh, RegisterFile.get_set], rfl⟩
  have he := execute_pop (H := Simulated.host) (m := popping.begun (.stk (some .A) none)) hs .A
  rw [if_pos hE] at he
  have hst := (Steps.failed rfl hf he (by simp)).step_eq
  refine ⟨_, hst, ?_⟩
  have h := core_of_failed_step Simulated.host popping hs (by decide) 0 hst (by simp [Fault.kind])
  rw [if_neg (by simp [Fault.kind]), after_zero, hI] at h
  exact h

end Yan85.Machine
