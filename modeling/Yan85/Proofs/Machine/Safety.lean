import Yan85.Bindings.Standard
import Yan85.Proofs.Host.Simulated
import Yan85.Proofs.Machine.Faults

/-! # What a decoded program cannot do

* `Safe H wraps m`: what the next step from `m` can fail with, and that the program of `m` can be
  carried out.
* `safe_of_proper`: every machine with a proper program and memories of 256 cells is safe.
* `safe_after_decoding`: so is every state that a machine with a decoded program reaches.
-/

namespace Yan85.Machine
set_option autoImplicit false

variable {b : Bindings} {σ : Type} {H : Host σ} {m m' : Machine b σ}

/-- The program of the machine is proper, and its next step fails only as it should. -/
structure Safe (H : Host σ) (wraps : Bool) (m : Machine b σ) : Prop where
  proper : ∀ i ∈ m.program, i.IsProper
  /-- Only `stk` and `sys` fail at all. -/
  succeeds : ∀ i, m.exitCode = none → m.fetch = .ok i → i.mnemonic? ≠ some .stk →
    i.mnemonic? ≠ some .sys → ∃ snapshot, (step H m).1 = .ok snapshot
  /-- A strict stack refuses the push at 255, and the pop at 0 that no push comes before. -/
  stack : ∀ popTo pushFrom k, m.exitCode = none → m.fetch = .ok (.stk popTo pushFrom) →
    (Raises H m k ↔ wraps = false ∧
      (k = .stackOverflow ∧ pushFrom ≠ none ∧ m.registers.get .S = 0xFF ∨
        k = .stackUnderflow ∧ pushFrom = none ∧ popTo ≠ none ∧ m.registers.get .S = 0))
  /-- The result of a system call fits into its register. -/
  results : ∀ number result v m', m.fetch = .ok (.sys number result) →
    call H number (m.begun (.sys number result)) = (.ok v, m') → ∃ x, v = byteValue x
  invalidOperand : ¬ Raises H m .invalidOperand
  value : ¬ Raises H m .value
  outOfBounds : Raises H m .outOfBounds → ∃ number result, m.fetch = .ok (.sys number result)

theorem not_outside (hm : m.memory.size = addressSpaceSize) (a : UInt8) :
    ¬ m.memory.size ≤ a.toNat := by
  have ha : a.toNat < m.memory.size := hm ▸ a.toNat_lt
  omega

/-- On an honest host no instruction fails for want of a register or of a byte. -/
theorem Fails.kind_of_honest (hH : H.Honest) {i : Instruction} {f : Fault}
    (h : Fails H m i f m') : f.kind ≠ .invalidOperand ∧ f.kind ≠ .value := by
  cases h with
  | outside | full | empty => simp [Fault.kind]
  | refused hc =>
    have hk := call_kind_mem hc
    constructor
    · intro e
      rw [e] at hk
      exact absurd hk (by decide)
    · intro e
      rw [e] at hk
      exact absurd hk (by decide)
  | unfit hc hv =>
    obtain ⟨x, hx⟩ := call_fits hH hc
    exact absurd hx (hv x)

/-- How the instruction at `I` fails, where all instructions are proper. -/
theorem fails_of_raises (hs : m.stack.memory.size = addressSpaceSize)
    (hp : ∀ i ∈ m.program, i.IsProper) {i : Instruction} {k : FaultKind} (hx : m.exitCode = none)
    (hf : m.fetch = .ok i) (h : Raises H m k) :
    ∃ f m', Fails H (m.begun i) i f m' ∧ f.kind = k := by
  obtain ⟨f, m', he, hk, -⟩ := (raises_iff hx hf).1 h
  have hi := hp i (List.mem_of_getElem? (fetch_eq_ok_iff.1 hf))
  exact ⟨f, m', execute_fails (m := m.begun i) hs hi he, hk⟩

theorem stack_raises_iff (hs : m.stack.memory.size = addressSpaceSize)
    (hp : ∀ i ∈ m.program, i.IsProper) {popTo pushFrom : Operand} (k : FaultKind)
    (hx : m.exitCode = none) (hf : m.fetch = .ok (.stk popTo pushFrom)) :
    Raises H m k ↔ m.stack.wraps = false ∧
      (k = .stackOverflow ∧ pushFrom ≠ none ∧ m.registers.get .S = 0xFF ∨
        k = .stackUnderflow ∧ pushFrom = none ∧ popTo ≠ none ∧ m.registers.get .S = 0) := by
  rw [← get_begun m (.stk popTo pushFrom) (q := .S) (by decide)]
  have hs' : (m.begun (.stk popTo pushFrom)).stack.memory.size = addressSpaceSize := hs
  constructor
  · intro h
    obtain ⟨f, m', hF, rfl⟩ := fails_of_raises hs hp hx hf h
    cases hF with
    | outside hi => simp [Instruction.mnemonic?] at hi
    | full hfull => exact ⟨hfull.2, .inl ⟨rfl, by simp, hfull.1⟩⟩
    | empty hempty => exact ⟨hempty.2, .inr ⟨rfl, rfl, by simp, hempty.1⟩⟩
  · rw [raises_iff hx hf]
    rintro ⟨hw, ⟨rfl, hq, hS⟩ | ⟨rfl, rfl, hr, hS⟩⟩
    · obtain ⟨q, rfl⟩ := Option.ne_none_iff_exists'.1 hq
      exact ⟨_, _, execute_full hs' ⟨hS, hw⟩ popTo q, rfl, by decide⟩
    · obtain ⟨r, rfl⟩ := Option.ne_none_iff_exists'.1 hr
      have he := execute_pop (H := H) hs' r
      rw [if_pos ⟨hS, hw⟩] at he
      exact ⟨_, _, he, rfl, by decide⟩

theorem safe_of_proper (hH : H.Honest) (hm : m.memory.size = addressSpaceSize)
    (hs : m.stack.memory.size = addressSpaceSize) (hp : ∀ i ∈ m.program, i.IsProper) :
    Safe H m.stack.wraps m where
  proper := hp
  succeeds := by
    intro i hx hf hstk hsys
    cases hr : (step H m).1 with
    | ok snapshot => exact ⟨snapshot, rfl⟩
    | error f =>
      obtain ⟨g, m', hF, -⟩ := fails_of_raises hs hp hx hf ⟨f, hr, rfl⟩
      cases hF with
      | outside _ ha => exact absurd ha (not_outside (m := m.begun i) hm _)
      | full | empty => exact absurd rfl hstk
      | refused | unfit => exact absurd rfl hsys
  stack := fun popTo pushFrom k hx hf => stack_raises_iff hs hp k hx hf
  results := fun number result v m' _ hc => call_fits hH hc
  invalidOperand := by
    intro h
    obtain ⟨hx, i, hf⟩ := exists_fetch h (by decide) (by decide)
    obtain ⟨f, m', hF, hk⟩ := fails_of_raises hs hp hx hf h
    exact (hF.kind_of_honest hH).1 hk
  value := by
    intro h
    obtain ⟨hx, i, hf⟩ := exists_fetch h (by decide) (by decide)
    obtain ⟨f, m', hF, hk⟩ := fails_of_raises hs hp hx hf h
    exact (hF.kind_of_honest hH).2 hk
  outOfBounds := by
    intro h
    obtain ⟨hx, i, hf⟩ := exists_fetch h (by decide) (by decide)
    obtain ⟨f, m', hF, hk⟩ := fails_of_raises hs hp hx hf h
    cases hF with
    | outside _ ha => exact absurd ha (not_outside (m := m.begun i) hm _)
    | full | empty => cases hk
    | refused | unfit => exact ⟨_, _, hf⟩

/-- **Decoded programs are safe.** From any contents of the registers and of two memories of 256
cells, and through any number of steps of which any may have failed and any may have read code, a
decoded program reaches only safe states. -/
theorem safe_after_decoding (H : Host σ) (hH : H.Honest) (m : Machine b σ) (data : List UInt8)
    (hd : decodeProgram b data = .ok m.program) (hm : m.memory.size = addressSpaceSize)
    (hs : m.stack.memory.size = addressSpaceSize) (n : Nat) :
    Safe H m.stack.wraps (after H n m) := by
  have hk := keeps_after H n m
  rw [← hk.wraps]
  exact safe_of_proper hH (hk.memorySize.trans hm) (hk.stackSize.trans hs)
    (hk.proper (proper_of_decodeProgram hd))

/-- A machine that sets `C` and then reads code over its own program. -/
def loading : Machine .standard Simulated :=
  .fresh .standard [.imm (some .C) 1, .sys 0x01 (some .A)] (.ofSize .main addressSpaceSize) false
    .empty

theorem loading_safe :
    decodeProgram .standard [0x80, 0x08, 0x01, 0x02, 0x01, 0x20] = .ok loading.program ∧
      Safe Simulated.host false (after Simulated.host 2 loading) := by
  have hd : decodeProgram .standard [0x80, 0x08, 0x01, 0x02, 0x01, 0x20] = .ok loading.program :=
    rfl
  exact ⟨hd, safe_after_decoding Simulated.host Simulated.honest loading _ hd
    (Memory.size_ofSize .main _) (Memory.size_ofSize .stack _) 2⟩

end Yan85.Machine
