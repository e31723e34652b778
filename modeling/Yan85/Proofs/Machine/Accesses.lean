import Yan85.Proofs.Machine.Faults

/-! # The accesses that an instruction records

* `callAccesses`, `accessesOf`: the accesses of a system call and of an instruction, told from the
  state before it.
* `Ended`: the instruction has succeeded, or has asked for the exit.
* `accesses_of_execute`: an instruction that has ended has recorded these accesses and no others.
-/

namespace Yan85.Machine
set_option autoImplicit false

variable {b : Bindings} {σ : Type} {H : Host σ} {m m' : Machine b σ}

/-- The accesses of a system call with the arguments `x`, `y` and `z`, if it succeeds. -/
def callAccesses (H : Host σ) (m : Machine b σ) (x y z : UInt8) : Syscall → List Access
  | .openFile =>
    consecutive .main x.toNat (m.memory.slice x.toNat (m.memory.stringLength x.toNat)) .read
  | .readMemory =>
    match (H.read (byteValue x) (byteValue z) m.host).1 with
    | .ok data => consecutive .main y.toNat data .write
    | .error _ => []
  | .write => consecutive .main y.toNat (m.memory.slice y.toNat z.toNat) .read
  | .readCode | .sleep | .exit => []

/-- The accesses of an instruction, if it succeeds. What a `stk` pops after a push is what it has
pushed. -/
def accessesOf (H : Host σ) (m : Machine b σ) : Instruction → List Access
  | .stk (some _) none =>
    let top := m.registers.get .S - 1
    [⟨.stack, top.toNat, m.stack.memory.cell top.toNat, .read⟩]
  | .stk none (some q) => [⟨.stack, (m.registers.get .S).toNat, m.registers.get q, .write⟩]
  | .stk (some _) (some q) =>
    [⟨.stack, (m.registers.get .S).toNat, m.registers.get q, .write⟩,
      ⟨.stack, (m.registers.get .S).toNat, m.registers.get q, .read⟩]
  | .stm (some a) (some r) =>
    [⟨.main, (m.registers.get a).toNat, m.registers.get r, .write⟩]
  | .ldm _ (some a) =>
    [⟨.main, (m.registers.get a).toNat, m.memory.cell (m.registers.get a).toNat, .read⟩]
  | .sys number _ =>
    match Syscall.ofCode? b (byteValue number) with
    | some s =>
      callAccesses H m (m.registers.get .A) (m.registers.get .B) (m.registers.get .C) s
    | none => []
  | _ => []

/-- The instruction has succeeded, or has asked for the exit. -/
def Ended (r : Except Fault Unit) : Prop := r = .ok () ∨ ∃ code, r = .error (.halt code)

theorem not_ended {f : Fault} (h : f.kind ≠ .halt) : ¬ Ended (.error f) := by
  rintro (he | ⟨code, he⟩)
  · cases he
  · cases he
    exact h rfl

theorem ended_ite {p : Prop} [Decidable p] {f : Fault} {m1 m2 : Machine b σ}
    {r : Except Fault Unit} (hf : f.kind ≠ .halt)
    (h : (if p then (Except.error f, m1) else (Except.ok (), m2)) = (r, m')) (hr : Ended r) :
    ¬ p ∧ m' = m2 := by
  by_cases hp : p
  · rw [if_pos hp] at h
    cases h
    exact absurd hr (not_ended hf)
  · rw [if_neg hp] at h
    cases h
    exact ⟨hp, rfl⟩

theorem accesses_eq_nil (hl : m.memory.log = []) (hl' : m.stack.memory.log = []) :
    m.accesses = [] := by
  unfold accesses
  rw [hl, hl', List.append_nil]

/-! ## System calls -/

theorem Calls.eq_exit {x y z code : Int} {s : Syscall}
    (h : Calls H m x y z s (.error (.halt code)) m') : s = .exit ∧ m' = m := by
  cases h with
  | exited => exact ⟨rfl, rfl⟩
  | pathOutside hp => cases Memory.readString_error hp
  | readOutside _ _ hw => cases Memory.writeRange_error hw
  | writeOutside hr => cases Memory.readRange_error hr
  | codeUndecoded _ _ hd =>
    obtain hk | hk := kind_of_decodeProgram hd
    · cases hk
    · cases hk

theorem Calls.accesses {x y z : UInt8} {v : Int} {s : Syscall}
    (h : Calls H m (byteValue x) (byteValue y) (byteValue z) s (.ok v) m')
    (hm : m.memory.space = .main) (hl : m.memory.log = []) (hl' : m.stack.memory.log = []) :
    m'.accesses = callAccesses H m x y z s := by
  have hc : ∀ i xs d, (m.memory.recordAll i xs d).log ++ m.stack.memory.log =
      consecutive .main i xs d := by
    intro i xs d
    change (m.memory.log ++ consecutive m.memory.space i xs d) ++ _ = _
    rw [hl, hl', hm, List.nil_append, List.append_nil]
  have hn := accesses_eq_nil hl hl'
  cases h with
  | opened hp =>
    obtain ⟨i, hi, -, rfl, rfl⟩ := Memory.readString_eq_ok_iff.1 hp
    obtain rfl : x.toNat = i := Int.ofNat.inj hi
    exact hc _ _ _
  | codeRead => exact hn
  | read _ hr hw =>
    obtain ⟨i, hi, -, rfl⟩ := Memory.writeRange_eq_ok_iff.1 hw
    obtain rfl : y.toNat = i := Int.ofNat.inj hi
    simp only [callAccesses, hr]
    exact hc _ _ _
  | written hr =>
    obtain ⟨i, k, hi, hk, -, rfl, rfl⟩ := Memory.readRange_eq_ok_iff.1 hr
    obtain rfl : y.toNat = i := Int.ofNat.inj hi
    obtain rfl : z.toNat = k := Int.ofNat.inj hk
    exact hc _ _ _
  | slept => exact hn

theorem accesses_of_writeOperand {o : Operand} {v : Int} {r : Except Fault Unit}
    (h : writeOperand o v m = (r, m')) : m'.accesses = m.accesses := by
  unfold writeOperand at h
  cases hw : m.registers.write o v with
  | error f =>
    rw [hw] at h
    cases h
    rfl
  | ok rf =>
    rw [hw] at h
    cases h
    rfl

theorem accesses_of_sys (hm : m.memory.space = .main) (hl : m.memory.log = [])
    (hl' : m.stack.memory.log = []) {number : UInt8} {result : Operand} {r : Except Fault Unit}
    (h : execute H (.sys number result) m = (r, m')) (hr : Ended r) :
    m'.accesses = accessesOf H m (.sys number result) := by
  simp only [accessesOf]
  obtain ⟨f, hc, rfl⟩ | ⟨v, m1, hc, hw⟩ := execute_sys_cases h
  · obtain he | ⟨code, he⟩ := hr
    · cases he
    · cases he
      obtain ⟨-, hf, -⟩ | ⟨s, hs, hc⟩ := dispatch_cases hc
      · cases hf
      · obtain ⟨rfl, rfl⟩ := hc.eq_exit
        simp only [hs, callAccesses]
        exact accesses_eq_nil hl hl'
  · obtain ⟨-, hf, -⟩ | ⟨s, hs, hc⟩ := dispatch_cases hc
    · cases hf
    · rw [accesses_of_writeOperand hw, hc.accesses hm hl hl']
      simp only [hs]
      rfl

/-! ## Instructions -/

/-- An instruction that lacks a register fails, unless it is a jump that is not taken. -/
theorem execute_improper (H : Host σ) (m : Machine b σ) {i : Instruction} (hp : ¬ i.IsProper)
    (hs : i.mnemonic? ≠ some .sys) :
    (∃ f m', execute H i m = (.error f, m') ∧ f.kind ≠ .halt) ∨
      ∃ condition, i = .jmp condition none ∧ execute H i m = (.ok (), m) := by
  have h0 : Fault.noOperand.kind ≠ .halt := by decide
  cases i with
  | imm dst value =>
    cases dst with
    | none => exact .inl ⟨_, m, rfl, h0⟩
    | some r => exact absurd rfl hp
  | add dst src | stm dst src | cmp dst src =>
    cases dst with
    | none => exact .inl ⟨_, m, rfl, h0⟩
    | some r =>
      cases src with
      | none => exact .inl ⟨_, m, rfl, h0⟩
      | some q => exact absurd rfl hp
  | stk popTo pushFrom => exact absurd rfl hp
  | ldm dst address =>
    cases address with
    | none => exact .inl ⟨_, m, rfl, h0⟩
    | some a =>
      cases dst with
      | some r => exact absurd rfl hp
      | none =>
        -- The cell is read before the missing register is noticed.
        simp only [execute]
        rw [Action.bind_apply_ok (readOperand_some a m)]
        have hr := m.memory.read_byte (m.registers.get a)
        by_cases ha : (m.registers.get a).toNat < m.memory.size
        · rw [if_pos ha] at hr
          rw [Action.bind_apply_ok (onMemory_ok hr)]
          exact .inl ⟨_, _, rfl, h0⟩
        · rw [if_neg ha] at hr
          rw [Action.bind_apply_error (onMemory_error hr)]
          exact .inl ⟨_, m, rfl, by simp [Fault.kind]⟩
  | jmp condition target =>
    cases target with
    | some r => exact absurd rfl hp
    | none =>
      simp only [execute]
      rw [Action.bind_apply_ok (readOperand_some .F m)]
      by_cases hj : m.registers.get .F &&& condition ≠ 0
      · rw [if_pos hj]
        exact .inl ⟨_, m, rfl, h0⟩
      · rw [if_neg hj]
        exact .inr ⟨condition, rfl, rfl⟩
  | sys number result => exact absurd rfl hs
  | bare => exact .inl ⟨_, m, rfl, by decide⟩

theorem accesses_pushed (hk : m.stack.memory.space = .stack) (hl : m.memory.log = [])
    (hl' : m.stack.memory.log = []) (x : UInt8) :
    (m.pushed x).accesses = [⟨.stack, (m.registers.get .S).toNat, x, .write⟩] := by
  change m.memory.log ++ (m.stack.memory.log ++ [⟨m.stack.memory.space, _, x, .write⟩]) = _
  rw [hl, hl', hk]
  rfl

theorem accesses_popped (hk : m.stack.memory.space = .stack) (r : Register) :
    (m.popped r).accesses = m.accesses ++ [⟨.stack, (m.registers.get .S - 1).toNat,
      m.stack.memory.cell (m.registers.get .S - 1).toNat, .read⟩] := by
  change m.memory.log ++ (m.stack.memory.log ++ [⟨m.stack.memory.space, _, _, .read⟩]) = _
  rw [hk, ← List.append_assoc]
  rfl

theorem accesses_of_stk (hk : m.stack.memory.space = .stack)
    (hs : m.stack.memory.size = addressSpaceSize) (hl : m.memory.log = [])
    (hl' : m.stack.memory.log = []) {popTo pushFrom : Operand} {r : Except Fault Unit}
    (h : execute H (.stk popTo pushFrom) m = (r, m')) (hr : Ended r) :
    m'.accesses = accessesOf H m (.stk popTo pushFrom) := by
  have hn := accesses_eq_nil hl hl'
  cases popTo with
  | none =>
    cases pushFrom with
    | none =>
      cases h
      exact hn
    | some q =>
      rw [execute_push hs] at h
      obtain ⟨-, rfl⟩ := ended_ite (by simp [Fault.kind]) h hr
      exact accesses_pushed hk hl hl' _
  | some p =>
    cases pushFrom with
    | none =>
      rw [execute_pop hs] at h
      obtain ⟨-, rfl⟩ := ended_ite (by simp [Fault.kind]) h hr
      rw [accesses_popped hk, hn]
      rfl
    | some q =>
      rw [execute_move hs] at h
      obtain ⟨-, rfl⟩ := ended_ite (by simp [Fault.kind]) h hr
      obtain ⟨h1, h2⟩ := top_pushed hs (m.registers.get q)
      rw [accesses_popped (m := m.pushed _) hk, accesses_pushed hk hl hl', h1, h2]
      rfl

/-- An instruction that has ended has recorded its accesses and no others. -/
theorem accesses_of_execute (hm : m.Sound) (hl : m.memory.log = []) (hl' : m.stack.memory.log = [])
    {i : Instruction} {r : Except Fault Unit} (h : execute H i m = (r, m')) (hr : Ended r) :
    m'.accesses = accessesOf H m i := by
  have hn := accesses_eq_nil hl hl'
  by_cases hs : i.mnemonic? = some .sys
  · cases i with
    | sys number result => exact accesses_of_sys hm.memorySpace hl hl' h hr
    | _ => cases hs
  by_cases hp : i.IsProper
  · obtain ⟨c, rfl⟩ := exists_command hp hs
    cases c with
    | imm p x =>
      cases (execute_imm p x).symm.trans h
      exact hn
    | add p q =>
      cases (execute_add p q).symm.trans h
      exact hn
    | stk popTo pushFrom => exact accesses_of_stk hm.stackSpace hm.stackSize hl hl' h hr
    | stm a p =>
      have he := (execute_stm a p).symm.trans h
      rw [← ite_not] at he
      obtain ⟨-, rfl⟩ := ended_ite (by simp [Fault.kind]) he hr
      change (m.memory.log ++ [⟨m.memory.space, _, _, .write⟩]) ++ m.stack.memory.log = _
      rw [hl, hl', hm.memorySpace]
      rfl
    | ldm p a =>
      have he := (execute_ldm p a).symm.trans h
      rw [← ite_not] at he
      obtain ⟨-, rfl⟩ := ended_ite (by simp [Fault.kind]) he hr
      change (m.memory.log ++ [⟨m.memory.space, _, _, .read⟩]) ++ m.stack.memory.log = _
      rw [hl, hl', hm.memorySpace]
      rfl
    | cmp p q =>
      cases (execute_cmp p q).symm.trans h
      exact hn
    | jmp condition p =>
      cases (execute_jmp condition p).symm.trans h
      by_cases hj : m.registers.get .F &&& condition ≠ 0
      · rw [if_pos hj]
        exact hn
      · rw [if_neg hj]
        exact hn
  · obtain ⟨f, m1, he, hf⟩ | ⟨condition, rfl, he⟩ := execute_improper H m hp hs
    · cases he.symm.trans h
      exact absurd hr (not_ended hf)
    · cases he.symm.trans h
      exact hn

end Yan85.Machine
