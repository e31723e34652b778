import Yan85.Machine.Step
import Yan85.Proofs.Memory.Operations

/-! # The effect of an instruction that makes no system call

* `assign`, `pushed`, `popped`: the changes that these instructions make to a machine.
* `execute_imm`, ..., `execute_jmp`: the instructions that always succeed.
* `execute_stm`, `execute_ldm`: the instructions that fail on an address outside of the memory.
* `execute_push`, `execute_pop`, `execute_move`: the forms of `stk`, on a stack of 256 cells.
-/

namespace Yan85
set_option autoImplicit false

/-! ## The stack -/

namespace Stack

variable {b : Bindings} {st : Stack}

/-- Whether a push is refused. -/
abbrev Full (st : Stack) (rf : RegisterFile b) : Prop := rf.get .S = 0xFF ∧ st.wraps = false

/-- Whether a pop is refused. -/
abbrev Empty (st : Stack) (rf : RegisterFile b) : Prop := rf.get .S = 0 ∧ st.wraps = false

theorem push_byte (hs : st.memory.size = addressSpaceSize) (rf : RegisterFile b) (x : UInt8) :
    push (byteValue x) (st, rf) =
      if st.Full rf then (.error (.stackOverflow (rf.get .S)), st, rf)
      else (.ok (), { st with memory := st.memory.store (rf.get .S).toNat x },
        rf.set .S (rf.get .S + 1)) := by
  have hlt : (rf.get .S).toNat < st.memory.size := hs ▸ (rf.get .S).toNat_lt
  unfold push
  simp only
  rw [Memory.write_byte, if_pos hlt]

theorem pop_byte (hs : st.memory.size = addressSpaceSize) (rf : RegisterFile b) :
    pop (st, rf) =
      if st.Empty rf then (.error .stackUnderflow, st, rf)
      else (.ok (st.memory.cell (rf.get .S - 1).toNat),
        { st with memory := st.memory.seen (rf.get .S - 1).toNat },
        rf.set .S (rf.get .S - 1)) := by
  have hlt : (rf.get .S - 1).toNat < st.memory.size := hs ▸ (rf.get .S - 1).toNat_lt
  unfold pop
  simp only
  rw [Memory.read_byte, if_pos hlt]

end Stack

namespace Machine

variable {b : Bindings} {σ : Type} {H : Host σ} {m : Machine b σ}

/-! ## Changes of a machine -/

/-- The machine with the byte `x` in the register `r`. -/
def assign (m : Machine b σ) (r : Register) (x : UInt8) : Machine b σ :=
  { m with registers := m.registers.set r x }

/-- The machine with the byte `x` in the memory cell `a`. -/
def stored (m : Machine b σ) (a x : UInt8) : Machine b σ :=
  { m with memory := m.memory.store a.toNat x }

/-- The machine with the memory cell `a` taken into the register `r`. -/
def loaded (m : Machine b σ) (r : Register) (a : UInt8) : Machine b σ :=
  { m with
    memory := m.memory.seen a.toNat
    registers := m.registers.set r (m.memory.cell a.toNat) }

/-- The machine with the byte `x` on top of its stack. -/
def pushed (m : Machine b σ) (x : UInt8) : Machine b σ :=
  { m with
    stack := { m.stack with memory := m.stack.memory.store (m.registers.get .S).toNat x }
    registers := m.registers.set .S (m.registers.get .S + 1) }

/-- The machine with the top of its stack taken into the register `r`. -/
def popped (m : Machine b σ) (r : Register) : Machine b σ :=
  let top := m.registers.get .S - 1
  { m with
    stack := { m.stack with memory := m.stack.memory.seen top.toNat }
    registers := (m.registers.set .S top).set r (m.stack.memory.cell top.toNat) }

/-! ## Registers -/

theorem readOperand_some (r : Register) (m : Machine b σ) :
    readOperand (some r) m = (.ok (m.registers.get r), m) := rfl

theorem writeOperand_byte (r : Register) (x : UInt8) (m : Machine b σ) :
    writeOperand (some r) (byteValue x) m = (.ok (), m.assign r x) := by
  simp [writeOperand, assign]

theorem writeOperand_eq_ok_iff {r : Register} {v : Int} {m' : Machine b σ} :
    writeOperand (some r) v m = (.ok (), m') ↔ ∃ x, v = byteValue x ∧ m' = m.assign r x := by
  constructor
  · intro h
    cases hv : byte? v with
    | none =>
      simp only [writeOperand, RegisterFile.write, hv] at h
      cases h
    | some x =>
      obtain rfl := byte?_eq_some_iff.1 hv
      rw [writeOperand_byte] at h
      cases h
      exact ⟨x, rfl, rfl⟩
  · rintro ⟨x, rfl, rfl⟩
    exact writeOperand_byte r x m

theorem writeOperand_error {r : Register} {v : Int} {f : Fault} {m' : Machine b σ}
    (h : writeOperand (some r) v m = (.error f, m')) :
    f = .notRegisterValue v ∧ m' = m ∧ ∀ x, v ≠ byteValue x := by
  cases hv : byte? v with
  | none =>
    simp only [writeOperand, RegisterFile.write, hv] at h
    cases h
    refine ⟨rfl, rfl, fun x hx => ?_⟩
    rw [hx, byte?_byteValue] at hv
    cases hv
  | some x =>
    obtain rfl := byte?_eq_some_iff.1 hv
    rw [writeOperand_byte] at h
    cases h

theorem execute_imm (r : Register) (x : UInt8) :
    execute H (.imm (some r) x) m = (.ok (), m.assign r x) :=
  writeOperand_byte r x m

theorem execute_add (r q : Register) :
    execute H (.add (some r) (some q)) m =
      (.ok (), m.assign r (m.registers.get r + m.registers.get q)) :=
  writeOperand_byte r (m.registers.get r + m.registers.get q) m

theorem execute_cmp (r q : Register) :
    execute H (.cmp (some r) (some q)) m =
      (.ok (), m.assign .F (comparisonFlags b (m.registers.get r) (m.registers.get q))) :=
  writeOperand_byte .F (comparisonFlags b (m.registers.get r) (m.registers.get q)) m

theorem execute_jmp (condition : UInt8) (r : Register) :
    execute H (.jmp condition (some r)) m =
      (.ok (), if m.registers.get .F &&& condition ≠ 0 then m.assign .I (m.registers.get r)
        else m) := by
  simp only [execute]
  rw [Action.bind_apply_ok (readOperand_some .F m)]
  split
  · rw [Action.bind_apply_ok (readOperand_some r m), writeOperand_byte]
  · rfl

/-! ## Memory -/

theorem onMemory_ok {α : Type} {op : Memory → Except Fault (α × Memory)} {x : α} {mem : Memory}
    (h : op m.memory = .ok (x, mem)) : onMemory op m = (.ok x, { m with memory := mem }) := by
  simp only [onMemory, h]

theorem onMemory_error {α : Type} {op : Memory → Except Fault (α × Memory)} {f : Fault}
    (h : op m.memory = .error f) : onMemory op m = (.error f, m) := by
  simp only [onMemory, h]

theorem changeMemory_ok {op : Memory → Except Fault Memory} {mem : Memory}
    (h : op m.memory = .ok mem) : changeMemory op m = (.ok (), { m with memory := mem }) := by
  simp only [changeMemory, h]

theorem changeMemory_error {op : Memory → Except Fault Memory} {f : Fault}
    (h : op m.memory = .error f) : changeMemory op m = (.error f, m) := by
  simp only [changeMemory, h]

theorem execute_stm (a r : Register) :
    execute H (.stm (some a) (some r)) m =
      if (m.registers.get a).toNat < m.memory.size then
        (.ok (), m.stored (m.registers.get a) (m.registers.get r))
      else (.error (.addressOutside (byteValue (m.registers.get a)) m.memory.extent), m) := by
  have h := m.memory.write_byte (m.registers.get a) (m.registers.get r)
  simp only [execute]
  rw [Action.bind_apply_ok (readOperand_some a m), Action.bind_apply_ok (readOperand_some r m)]
  by_cases hlt : (m.registers.get a).toNat < m.memory.size
  · rw [if_pos hlt] at h ⊢
    exact changeMemory_ok h
  · rw [if_neg hlt] at h ⊢
    exact changeMemory_error h

theorem execute_ldm (r a : Register) :
    execute H (.ldm (some r) (some a)) m =
      if (m.registers.get a).toNat < m.memory.size then (.ok (), m.loaded r (m.registers.get a))
      else (.error (.addressOutside (byteValue (m.registers.get a)) m.memory.extent), m) := by
  have h := m.memory.read_byte (m.registers.get a)
  simp only [execute]
  rw [Action.bind_apply_ok (readOperand_some a m)]
  by_cases hlt : (m.registers.get a).toNat < m.memory.size
  · rw [if_pos hlt] at h ⊢
    rw [Action.bind_apply_ok (onMemory_ok h)]
    exact writeOperand_byte ..
  · rw [if_neg hlt] at h ⊢
    exact Action.bind_apply_error (onMemory_error h)

/-! ## Pushing and popping -/

theorem onStack_push (hs : m.stack.memory.size = addressSpaceSize) (x : UInt8) :
    onStack (Stack.push (byteValue x)) m =
      if m.stack.Full m.registers then (.error (.stackOverflow (m.registers.get .S)), m)
      else (.ok (), m.pushed x) := by
  have h := Stack.push_byte hs m.registers x
  unfold onStack
  rw [Action.on_apply, h]
  by_cases hf : m.stack.Full m.registers
  · rw [if_pos hf, if_pos hf]
  · rw [if_neg hf, if_neg hf]
    rfl

theorem onStack_pop (hs : m.stack.memory.size = addressSpaceSize) (r : Register) :
    (onStack Stack.pop >>= fun x => writeOperand (some r) (byteValue x)) m =
      if m.stack.Empty m.registers then (.error .stackUnderflow, m) else (.ok (), m.popped r) := by
  have h := Stack.pop_byte hs m.registers
  rw [Action.bind_apply]
  unfold onStack
  rw [Action.on_apply, h]
  by_cases he : m.stack.Empty m.registers
  · rw [if_pos he, if_pos he]
  · rw [if_neg he, if_neg he]
    exact writeOperand_byte ..

theorem execute_stay : execute H (.stk none none) m = (.ok (), m) := rfl

theorem execute_push (hs : m.stack.memory.size = addressSpaceSize) (r : Register) :
    execute H (.stk none (some r)) m =
      if m.stack.Full m.registers then (.error (.stackOverflow (m.registers.get .S)), m)
      else (.ok (), m.pushed (m.registers.get r)) := by
  simp only [execute]
  rw [Action.bind_apply_ok (readOperand_some r m), Action.bind_apply, onStack_push hs]
  by_cases hf : m.stack.Full m.registers
  · rw [if_pos hf]
  · rw [if_neg hf]
    rfl

theorem execute_pop (hs : m.stack.memory.size = addressSpaceSize) (r : Register) :
    execute H (.stk (some r) none) m =
      if m.stack.Empty m.registers then (.error .stackUnderflow, m) else (.ok (), m.popped r) :=
  onStack_pop hs r

/-- A push leaves something to pop: at most the push of a move fails. -/
theorem not_empty_pushed (hf : ¬ m.stack.Full m.registers) (x : UInt8) :
    ¬ (m.pushed x).stack.Empty (m.pushed x).registers := by
  rintro ⟨h0, hw⟩
  apply hf
  refine ⟨?_, hw⟩
  have h1 : m.registers.get .S + 1 = 0 := by simpa [pushed] using h0
  have h2 := congrArg UInt8.toNat h1
  rw [← UInt8.toNat_inj]
  have h3 := (m.registers.get .S).toNat_lt
  rw [UInt8.toNat_add] at h2
  simp at h2 ⊢
  omega

/-- The byte that a push leaves on top of the stack. -/
theorem top_pushed (hs : m.stack.memory.size = addressSpaceSize) (x : UInt8) :
    (m.pushed x).registers.get .S - 1 = m.registers.get .S ∧
      (m.pushed x).stack.memory.cell (m.registers.get .S).toNat = x := by
  have hlt : (m.registers.get .S).toNat < m.stack.memory.size := hs ▸ (m.registers.get .S).toNat_lt
  constructor
  · change (m.registers.set .S (m.registers.get .S + 1)).get .S - 1 = _
    rw [RegisterFile.get_set_self, UInt8.add_sub_cancel]
  · change (m.stack.memory.store _ x).cell _ = x
    rw [Memory.cell_store _ hlt, if_pos rfl]

theorem execute_move (hs : m.stack.memory.size = addressSpaceSize) (r q : Register) :
    execute H (.stk (some r) (some q)) m =
      if m.stack.Full m.registers then (.error (.stackOverflow (m.registers.get .S)), m)
      else (.ok (), (m.pushed (m.registers.get q)).popped r) := by
  simp only [execute]
  rw [Action.bind_apply_ok (readOperand_some q m), Action.bind_apply, onStack_push hs]
  by_cases hf : m.stack.Full m.registers
  · rw [if_pos hf, if_pos hf]
  · rw [if_neg hf, if_neg hf]
    have hs' : (m.pushed (m.registers.get q)).stack.memory.size = addressSpaceSize := by
      simpa [pushed] using hs
    have he := not_empty_pushed hf (m.registers.get q)
    simpa only [if_neg he] using onStack_pop hs' r

/-- A refused push ends the instruction, whether it would go on to pop or not. -/
theorem execute_full (hs : m.stack.memory.size = addressSpaceSize)
    (hf : m.stack.Full m.registers) (popTo : Operand) (q : Register) :
    execute H (.stk popTo (some q)) m = (.error (.stackOverflow (m.registers.get .S)), m) := by
  cases popTo with
  | none => rw [execute_push hs, if_pos hf]
  | some r => rw [execute_move hs, if_pos hf]

end Machine

end Yan85
