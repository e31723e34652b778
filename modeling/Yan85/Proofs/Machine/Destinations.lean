import Yan85.Proofs.Machine.Calls
import Yan85.Proofs.Machine.Steps

/-! # The register that an instruction sets

* `Instruction.destination`: the register that an instruction sets when it is carried out to its
  end. Beside it, an `stk` moves `S`.
* `Leaves q x`, `Sets q dst x`: the action `x` leaves the register `q` alone, or does so unless it
  succeeds and `dst` is `q`. `sets_execute` says the latter of every instruction and its
  destination.
* `get_next`: a step changes a register only by carrying out an instruction that has it as its
  destination.
-/

namespace Yan85
set_option autoImplicit false

/-- The register that an instruction sets at its end. -/
def Instruction.destination : Instruction → Operand
  | .imm dst _ | .add dst _ | .ldm dst _ | .stk dst _ | .sys _ dst => dst
  | .cmp .. => some .F
  | .jmp .. => some .I
  | .stm .. | .bare => none

namespace Machine

variable {b : Bindings} {σ α β : Type} {H : Host σ} {m m' : Machine b σ} {q : Register}
  {dst : Operand}

/-! ## Actions -/

/-- The action does not change the register. -/
def Leaves (q : Register) (x : Action (Machine b σ) α) : Prop :=
  ∀ m, (x m).2.registers.get q = m.registers.get q

/-- The action changes the register only if it succeeds and the operand names the register. -/
def Sets (q : Register) (dst : Operand) (x : Action (Machine b σ) Unit) : Prop :=
  ∀ m, (x m).2.registers.get q = m.registers.get q ∨ dst = some q ∧ (x m).1 = .ok ()

theorem Leaves.sets {x : Action (Machine b σ) Unit} (h : Leaves q x) : Sets q dst x :=
  fun m => .inl (h m)

theorem Leaves.bind_sets {x : Action (Machine b σ) α} {g : α → Action (Machine b σ) Unit}
    (hx : Leaves q x) (hg : ∀ a, Sets q dst (g a)) : Sets q dst (x >>= g) := by
  intro m
  have h := hx m
  cases hr : x m with
  | mk r m' =>
    rw [hr] at h
    cases r with
    | error f =>
      rw [Action.bind_apply_error hr]
      exact .inl h
    | ok a =>
      rw [Action.bind_apply_ok hr, ← h]
      exact hg a m'

theorem sets_writeOperand (q : Register) (dst : Operand) (v : Int) :
    Sets q dst (writeOperand dst v : Action (Machine b σ) Unit) := by
  intro m
  cases dst with
  | none => exact .inl rfl
  | some r =>
    cases h : writeOperand (some r) v m with
    | mk res m' =>
      cases res with
      | error f =>
        obtain ⟨-, rfl, -⟩ := writeOperand_error h
        exact .inl rfl
      | ok u =>
        obtain ⟨x, -, rfl⟩ := writeOperand_eq_ok_iff.1 h
        by_cases hq : q = r
        · exact .inr ⟨congrArg some hq.symm, rfl⟩
        · exact .inl (RegisterFile.get_set_ne _ _ hq)

theorem leaves_readOperand (q : Register) (o : Operand) :
    Leaves q (readOperand o : Action (Machine b σ) UInt8) := fun _ => rfl

theorem leaves_onMemory (q : Register) (op : Memory → Except Fault (α × Memory)) :
    Leaves q (onMemory op : Action (Machine b σ) α) := by
  intro m
  unfold onMemory
  cases op m.memory <;> rfl

theorem leaves_changeMemory (q : Register) (op : Memory → Except Fault Memory) :
    Leaves q (changeMemory op : Action (Machine b σ) Unit) := by
  intro m
  unfold changeMemory
  cases op m.memory <;> rfl

theorem leaves_push (hq : q ≠ .S) (v : Int) :
    Leaves q (onStack (Stack.push v) : Action (Machine b σ) Unit) := by
  intro m
  unfold onStack
  rw [Action.on_apply]
  unfold Stack.push
  simp only
  split
  · rfl
  · cases m.stack.memory.write (byteValue (m.registers.get .S)) v with
    | error f => rfl
    | ok mem => exact RegisterFile.get_set_ne _ _ hq

theorem leaves_pop (hq : q ≠ .S) : Leaves q (onStack Stack.pop : Action (Machine b σ) UInt8) := by
  intro m
  unfold onStack
  rw [Action.on_apply]
  unfold Stack.pop
  simp only
  split
  · rfl
  · cases m.stack.memory.read (byteValue (m.registers.get .S - 1)) with
    | error f => exact RegisterFile.get_set_ne _ _ hq
    | ok p => exact RegisterFile.get_set_ne _ _ hq

theorem leaves_dispatch (q : Register) (H : Host σ) (code x y z : Int) :
    Leaves q (dispatch H code x y z : Action (Machine b σ) Int) := by
  intro m
  cases hd : dispatch H code x y z m with
  | mk r m' =>
    obtain ⟨-, -, rfl⟩ | ⟨s, -, hc⟩ := dispatch_cases hd
    · rfl
    · cases hc with
      | _ => rfl

/-! ## Instructions -/

/-- An instruction changes a register other than `S` only if it is its destination, and only if
nothing fails. -/
theorem sets_execute (hq : q ≠ .S) (H : Host σ) (i : Instruction) :
    Sets q i.destination (execute H i : Action (Machine b σ) Unit) := by
  have hr := leaves_readOperand (b := b) (σ := σ) q
  have hw := sets_writeOperand (b := b) (σ := σ) q
  cases i with
  | imm dst value => exact hw dst _
  | add dst src => exact (hr dst).bind_sets fun _ => (hr src).bind_sets fun _ => hw dst _
  | stk popTo pushFrom =>
    have hpop : ∀ r : Register, Sets q (some r) (onStack Stack.pop >>= fun x =>
        writeOperand (some r) (byteValue x) : Action (Machine b σ) Unit) := fun r =>
      (leaves_pop hq).bind_sets fun x => hw (some r) _
    have hpush : ∀ r : Register, ∀ {dst : Operand} {x : Action (Machine b σ) Unit},
        Sets q dst x → Sets q dst (readOperand (some r) >>= fun y =>
          onStack (Stack.push (byteValue y)) >>= fun _ => x) := fun r dst x hx =>
      (hr (some r)).bind_sets fun y => (leaves_push hq _).bind_sets fun _ => hx
    cases popTo with
    | none =>
      cases pushFrom with
      | none => exact fun _ => .inl rfl
      | some r => exact hpush r fun _ => .inl rfl
    | some t =>
      cases pushFrom with
      | none => exact hpop t
      | some r => exact hpush r (hpop t)
  | stm address value =>
    exact (hr address).bind_sets fun _ => (hr value).bind_sets fun _ =>
      (leaves_changeMemory q _).sets
  | ldm dst address =>
    exact (hr address).bind_sets fun _ => (leaves_onMemory q _).bind_sets fun _ => hw dst _
  | cmp left right =>
    exact (hr left).bind_sets fun _ => (hr right).bind_sets fun _ => hw (some .F) _
  | jmp condition target =>
    refine (hr (some .F)).bind_sets fun flags => ?_
    by_cases h : flags &&& condition ≠ 0
    · rw [if_pos h]
      exact (hr target).bind_sets fun _ => hw (some .I) _
    · rw [if_neg h]
      exact fun _ => .inl rfl
  | sys number result =>
    exact (hr (some .A)).bind_sets fun _ => (hr (some .B)).bind_sets fun _ =>
      (hr (some .C)).bind_sets fun _ => (leaves_dispatch q H _ _ _ _).bind_sets fun v =>
        hw result v
  | bare => exact fun _ => .inl rfl

/-! ## Steps -/

/-- The step from `m` carries out the instruction `i` to its end. -/
structure Performs (H : Host σ) (m : Machine b σ) (i : Instruction) : Prop where
  running : m.exitCode = none
  fetch : m.fetch = .ok i
  execute : (execute H i (m.begun i)).1 = .ok ()

/-- **A step that changes a register carries out an instruction with this destination.** The
counter, which every step moves on, and the pointer of the stack are left out of this. -/
theorem get_next (H : Host σ) (m : Machine b σ) (hS : q ≠ .S) (hI : q ≠ .I) :
    (next H m).registers.get q = m.registers.get q ∨
      ∃ i, Performs H m i ∧ i.destination = some q := by
  have hset : ∀ {i r m'}, execute H i (m.begun i) = (r, m') →
      m'.registers.get q = m.registers.get q ∨ i.destination = some q ∧ r = .ok () := by
    intro i r m' he
    have h := sets_execute hS H i (m.begun i)
    rw [he, get_begun m i hI] at h
    exact h
  refine next_of_steps (P := fun m' => m'.registers.get q = m.registers.get q ∨
    ∃ i, Performs H m i ∧ i.destination = some q) fun r m' hs => ?_
  cases hs with
  | halted | unfetched => exact .inl rfl
  | done hx hf he =>
    obtain h | ⟨hd, -⟩ := hset he
    · exact .inl h
    · exact .inr ⟨_, ⟨hx, hf, congrArg Prod.fst he⟩, hd⟩
  | exited hx hf he =>
    obtain h | ⟨-, ⟨⟩⟩ := hset he
    exact .inl h
  | failed hx hf he hn =>
    obtain h | ⟨-, ⟨⟩⟩ := hset he
    exact .inl h

end Machine

end Yan85
