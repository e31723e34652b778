import Yan85.Proofs.Machine.Failure
import Yan85.Proofs.Machine.Reference

/-! # Moves from register to register through the stack

* `Moves m m' dst x`: beside the advance of `I`, all that has become of `m` is the byte `x` in the
  register `dst` and in the stack cell that `S` pointed at.
* `get_popped_pushed`: a push and then a pop leave `S` where it was.
* `stk_moves`: an `stk` with both operands is such a move, and the push of a full stack is refused.
-/

namespace Yan85.Machine
set_option autoImplicit false

variable {b : Bindings} {σ : Type} {H : Host σ} {m m' : Machine b σ}

/-- Beside the advance of `I`, the byte `x` has come into the register `dst` and into the stack cell
at `S`, and nothing else has changed. -/
structure Moves (m m' : Machine b σ) (dst : Register) (x : UInt8) : Prop where
  registers : ∀ q, m'.registers.get q = if q = dst then x else m.found q
  stack : ∀ a : UInt8, m'.stack.memory.cell a.toNat =
    if a = m.registers.get .S then x else m.stack.memory.cell a.toNat
  memory : m'.memory.cells = m.memory.cells
  steps : m'.steps = m.steps + 1
  undisturbed : m.Undisturbed m'

/-! ## A push and then a pop -/

theorem get_popped_pushed (hs : m.stack.memory.size = addressSpaceSize) (x : UInt8)
    (r q : Register) :
    ((m.pushed x).popped r).registers.get q = if q = r then x else m.registers.get q := by
  obtain ⟨htop, hcell⟩ := top_pushed hs x
  unfold popped
  simp only
  rw [htop, hcell, RegisterFile.get_set, RegisterFile.get_set]
  by_cases hS : q = .S
  · rw [if_pos hS, hS]
  · rw [if_neg hS]
    unfold pushed
    rw [RegisterFile.get_set_ne _ _ hS]

theorem cell_popped_pushed (hs : m.stack.memory.size = addressSpaceSize) (x a : UInt8)
    (r : Register) :
    ((m.pushed x).popped r).stack.memory.cell a.toNat =
      if a = m.registers.get .S then x else m.stack.memory.cell a.toNat := by
  have hlt : (m.registers.get .S).toNat < m.stack.memory.size := hs ▸ (m.registers.get .S).toNat_lt
  unfold popped pushed
  simp only
  rw [Memory.cell_seen, Memory.cell_store _ hlt]
  simp only [UInt8.toNat_inj]

/-! ## The instruction -/

theorem full_begun_iff (i : Instruction) :
    (m.begun i).stack.Full (m.begun i).registers ↔ m.stack.Full m.registers := by
  have hS : (m.begun i).registers.get .S = m.registers.get .S := get_begun m i (by decide)
  unfold Stack.Full
  rw [hS]
  rfl

/-- **An `stk` with both operands is a move.** Where the stack wraps, and where `S` is not at its
end, the instruction moves the byte that it finds in `src` to `dst`, whichever registers these are;
the byte stays behind in the cell at `S`, which does not move unless it is `dst`. A strict stack
refuses the push at its end, and then only `I` has moved on. -/
theorem stk_moves (H : Host σ) (m : Machine b σ) (hx : m.exitCode = none)
    (hs : m.stack.memory.size = addressSpaceSize) (dst src : Register)
    (hi : m.program[(m.registers.get .I).toNat]? = some (.stk (some dst) (some src))) :
    (m.stack.wraps = true ∨ m.registers.get .S < 0xFF → ∃ snapshot m',
      step H m = (.ok snapshot, m') ∧ snapshot.exitCode = none ∧ m.Moves m' dst (m.found src)) ∧
    (m.stack.wraps = false → m.registers.get .S = 0xFF → ∃ m',
      step H m = (.error (.stackOverflow 0xFF), m') ∧
        m'.core = m.core.assign .I (m.registers.get .I + 1) ∧ m'.host = m.host) := by
  have hf := fetch_eq_ok_iff.2 hi
  have he := execute_move (H := H) (m := m.begun (.stk (some dst) (some src))) hs dst src
  refine ⟨fun hroom => ?_, fun hw hend => ?_⟩
  · have hfull : ¬ m.stack.Full m.registers := by
      rintro ⟨hend, hw⟩
      obtain h | h := hroom
      · exact Bool.false_ne_true (hw.symm.trans h)
      · rw [hend] at h
        exact absurd h (by decide)
    rw [if_neg (mt (full_begun_iff _).1 hfull), get_begun_eq_found] at he
    have hb : m.Undisturbed (m.begun (.stk (some dst) (some src))) :=
      ⟨rfl, rfl, rfl, rfl, rfl, rfl, rfl⟩
    have hu := (hb.trans (undisturbed_pushed _ (m.found src))).trans (undisturbed_popped _ dst)
    refine ⟨_, _, (Steps.done hx hf he).step_eq, rfl, fun q => ?_, fun a => ?_, rfl, rfl,
      hu.trans ⟨rfl, rfl, rfl, rfl, rfl, rfl, rfl⟩⟩
    · rw [← get_begun_eq_found m (.stk (some dst) (some src)) q]
      exact get_popped_pushed (m := m.begun _) hs (m.found src) dst q
    · have hc := cell_popped_pushed (m := m.begun (.stk (some dst) (some src))) hs (m.found src) a
        dst
      rw [get_begun m _ (by decide)] at hc
      exact hc
  · rw [if_pos ((full_begun_iff _).2 ⟨hend, hw⟩), get_begun m _ (by decide), hend] at he
    exact ⟨_, (Steps.failed hx hf he (by simp)).step_eq, core_begun m _, rfl⟩

/-- A machine about to move `S`, which points at the last cell, into `I`. -/
def outgoing (wraps : Bool) : Machine .standard Simulated :=
  { fresh .standard [.stk (some .I) (some .S)] (.ofSize .main addressSpaceSize) wraps .empty with
    registers := (RegisterFile.zero .standard).set .S 0xFF }

/-- A wrapping stack goes round and back; a strict one refuses. -/
theorem outgoing_moves :
    (∃ snapshot m', step Simulated.host (outgoing true) = (.ok snapshot, m') ∧
      m'.registers.get .I = 0xFF ∧ m'.registers.get .S = 0xFF ∧
      m'.stack.memory.cell 0xFF = 0xFF) ∧
    ∃ m', step Simulated.host (outgoing false) = (.error (.stackOverflow 0xFF), m') ∧
      m'.core = (outgoing false).core.assign .I 1 := by
  have hS : ∀ wraps, (outgoing wraps).registers.get .S = 0xFF := fun wraps =>
    RegisterFile.get_set_self _ .S 0xFF
  have hI : ∀ wraps, (outgoing wraps).registers.get .I = 0 := fun wraps => by
    change ((RegisterFile.zero .standard).set .S 0xFF).get .I = 0
    rw [RegisterFile.get_set_ne _ _ (by decide), RegisterFile.get_zero]
  have hi : ∀ wraps, (outgoing wraps).program[((outgoing wraps).registers.get .I).toNat]? =
      some (.stk (some .I) (some .S)) := fun wraps => by
    rw [hI]
    rfl
  obtain ⟨hmove, -⟩ := stk_moves Simulated.host (outgoing true) rfl (Memory.size_ofSize .stack _)
    .I .S (hi true)
  obtain ⟨-, hfull⟩ := stk_moves Simulated.host (outgoing false) rfl (Memory.size_ofSize .stack _)
    .I .S (hi false)
  obtain ⟨snapshot, m', hst, -, hm⟩ := hmove (.inl rfl)
  obtain ⟨m'', hst', hc, -⟩ := hfull rfl (hS false)
  have hfound : (outgoing true).found .S = 0xFF := hS true
  rw [hI] at hc
  refine ⟨⟨snapshot, m', hst, ?_, ?_, ?_⟩, m'', hst', hc⟩
  · rw [hm.registers, if_pos rfl, hfound]
  · rw [hm.registers, if_neg (by decide), hfound]
  · have h := hm.stack 0xFF
    rw [hS, if_pos rfl, hfound] at h
    exact h

end Yan85.Machine
