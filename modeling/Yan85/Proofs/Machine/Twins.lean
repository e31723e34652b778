import Yan85.Proofs.Bindings.Lookups
import Yan85.Proofs.Host.Mirrors
import Yan85.Proofs.Machine.Calls
import Yan85.Proofs.Machine.Runs

/-! # Two machines side by side

* `Bindings.SameMeaning`: two encodings agree on the flags and the system calls, which are all that
  execution asks of an encoding as long as no code is read.
* `Twins ρ eased m m'`: two machines are in the same state, each register by its name. Their
  encodings may differ, and so may what the states of their hosts are made of. With `eased` the second
  stack may wrap where the first one is strict.
* `InStep ρ eased x x'`: from twins, two actions end alike and leave twins. With `eased` nothing is
  said where the first one runs into the end of its stack.
* `execute_inStep`: so does every instruction. `Twins.after` carries this through any number of steps,
  `Twins.run` and `Twins.close` through runs and the closing of descriptors.
-/

namespace Yan85
set_option autoImplicit false

/-! ## Encodings -/

/-- The two encodings agree on the flags and the system calls. -/
structure Bindings.SameMeaning (b b' : Bindings) : Prop where
  flags : ∀ f, b'.flags.get f = b.flags.get f
  syscalls : ∀ s, b'.syscalls.get s = b.syscalls.get s

namespace Bindings.SameMeaning

variable {b b' : Bindings}

theorem refl (b : Bindings) : b.SameMeaning b := ⟨fun _ => rfl, fun _ => rfl⟩

theorem comparisonFlags (h : b.SameMeaning b') (x y : UInt8) :
    comparisonFlags b' x y = comparisonFlags b x y := by
  simp only [Yan85.comparisonFlags, h.flags]

theorem ofCode? (h : b.SameMeaning b') (code : Int) :
    Syscall.ofCode? b' code = Syscall.ofCode? b code := by
  simp only [Syscall.ofCode?, h.syscalls]

theorem flagsOf (h : b.SameMeaning b') (mask : Int) : b'.flagsOf mask = b.flagsOf mask := by
  simp only [Bindings.flagsOf, h.flags]

/-- The tables may list the system calls in different orders. -/
theorem boundSyscall? (h : b.SameMeaning b') (x : UInt8) :
    b'.boundSyscall? (byteValue x) = b.boundSyscall? (byteValue x) := by
  apply Option.ext
  intro s
  rw [boundSyscall?_byteValue_iff, boundSyscall?_byteValue_iff, h.syscalls]

theorem text (h : b.SameMeaning b') (i : Instruction) : i.text b' = i.text b := by
  cases i with
  | jmp condition target => simp only [Instruction.text, conditionText, h.flagsOf]
  | sys number result => simp only [Instruction.text, syscallText, h.boundSyscall?]
  | _ => rfl

end Bindings.SameMeaning

/-- The result is a refusal of the stack. -/
def StackFault {α : Type} : Except Fault α → Prop
  | .ok _ => False
  | .error f => f.kind = .stackOverflow ∨ f.kind = .stackUnderflow

instance {α : Type} (r : Except Fault α) : Decidable (StackFault r) :=
  match r with
  | .ok _ => inferInstanceAs (Decidable False)
  | .error _ => inferInstanceAs (Decidable (_ ∨ _))

namespace Machine

variable {b b' : Bindings} {σ τ α β : Type} {ρ : σ → τ → Prop} {eased : Prop}
variable {H : Host σ} {H' : Host τ} {m : Machine b σ} {m' : Machine b' τ}

/-! ## Twins -/

/-- Two machines in the same state. -/
structure Twins (ρ : σ → τ → Prop) (eased : Prop) (m : Machine b σ) (m' : Machine b' τ) : Prop where
  program : m'.program = m.program
  registers : ∀ r, m'.registers.get r = m.registers.get r
  memory : m'.memory = m.memory
  stack : m'.stack.memory = m.stack.memory
  wraps : m'.stack.wraps = m.stack.wraps ∨ eased ∧ m.stack.wraps = false
  descriptors : m'.descriptors = m.descriptors
  host : ρ m.host m'.host
  steps : m'.steps = m.steps
  exitCode : m'.exitCode = m.exitCode
  observed : m'.observed = m.observed
  diagnostics : m'.diagnostics = m.diagnostics

theorem Twins.set (h : Twins ρ eased m m') (r : Register) (x : UInt8) (q : Register) :
    (m'.registers.set r x).get q = (m.registers.set r x).get q := by
  rw [RegisterFile.get_set, RegisterFile.get_set, h.registers]

/-- A push that the second stack refuses is refused by the first one too. -/
theorem Twins.full (h : Twins ρ eased m m') (x : UInt8)
    (hx : m'.registers.get .S = x ∧ m'.stack.wraps = false) :
    m.registers.get .S = x ∧ m.stack.wraps = false := by
  refine ⟨(h.registers .S).symm.trans hx.1, ?_⟩
  obtain hw | ⟨-, hw⟩ := h.wraps
  · exact hw.symm.trans hx.2
  · exact hw

/-- What is refused by the first stack and not by the second needs the ease. -/
theorem Twins.eased_of_refused (h : Twins ρ eased m m') {x : UInt8}
    (hx : m.registers.get .S = x ∧ m.stack.wraps = false)
    (hx' : ¬ (m'.registers.get .S = x ∧ m'.stack.wraps = false)) : eased := by
  obtain hw | ⟨he, -⟩ := h.wraps
  · exact absurd ⟨(h.registers .S).trans hx.1, hw.trans hx.2⟩ hx'
  · exact he

/-- Two ends of an action that are alike, or of which the first is a refusal of the stack that the
ease allows for. -/
def Parallel (ρ : σ → τ → Prop) (eased : Prop) (r : Except Fault α × Machine b σ)
    (r' : Except Fault α × Machine b' τ) : Prop :=
  eased ∧ StackFault r.1 ∨ r'.1 = r.1 ∧ Twins ρ eased r.2 r'.2

/-- From twins, the two actions end in parallel. -/
def InStep (ρ : σ → τ → Prop) (eased : Prop) (x : Action (Machine b σ) α)
    (x' : Action (Machine b' τ) α) : Prop :=
  ∀ m m', Twins ρ eased m m' → Parallel ρ eased (x m) (x' m')

namespace InStep

theorem pure (a : α) :
    InStep ρ eased (pure a : Action (Machine b σ) α) (pure a : Action (Machine b' τ) α) :=
  fun _ _ h => .inr ⟨rfl, h⟩

theorem fail (f : Fault) :
    InStep ρ eased (Action.fail f : Action (Machine b σ) α)
      (Action.fail f : Action (Machine b' τ) α) :=
  fun _ _ h => .inr ⟨rfl, h⟩

theorem bind {x : Action (Machine b σ) α} {x' : Action (Machine b' τ) α}
    {g : α → Action (Machine b σ) β} {g' : α → Action (Machine b' τ) β}
    (hx : InStep ρ eased x x') (hg : ∀ a, InStep ρ eased (g a) (g' a)) :
    InStep ρ eased (x >>= g) (x' >>= g') := by
  intro m m' h
  have hp := hx m m' h
  cases hm : x m with
  | mk r m1 =>
    cases hm' : x' m' with
    | mk r' m1' =>
      rw [hm, hm'] at hp
      obtain ⟨he, hs⟩ | ⟨hr, ht⟩ := hp
      · cases r with
        | ok a => exact hs.elim
        | error f =>
          rw [Action.bind_apply_error hm]
          exact .inl ⟨he, hs⟩
      · have hr : r' = r := hr
        rw [hr] at hm'
        cases r with
        | error f =>
          rw [Action.bind_apply_error hm, Action.bind_apply_error hm']
          exact .inr ⟨rfl, ht⟩
        | ok a =>
          rw [Action.bind_apply_ok hm, Action.bind_apply_ok hm']
          exact hg a m1 m1' ht

/-! ## Accesses -/

theorem readOperand (o : Operand) :
    InStep ρ eased (readOperand o : Action (Machine b σ) UInt8)
      (Machine.readOperand o : Action (Machine b' τ) UInt8) := by
  intro m m' h
  refine .inr ⟨?_, h⟩
  cases o with
  | none => rfl
  | some r => exact congrArg Except.ok (h.registers r)

theorem writeOperand (o : Operand) (v : Int) :
    InStep ρ eased (writeOperand o v : Action (Machine b σ) Unit)
      (Machine.writeOperand o v : Action (Machine b' τ) Unit) := by
  intro m m' h
  unfold Machine.writeOperand
  cases o with
  | none => exact .inr ⟨rfl, h⟩
  | some r =>
    unfold RegisterFile.write
    cases byte? v with
    | none => exact .inr ⟨rfl, h⟩
    | some x => exact .inr ⟨rfl, { h with registers := h.set r x }⟩

theorem onMemory (op : Memory → Except Fault (α × Memory)) :
    InStep ρ eased (onMemory op : Action (Machine b σ) α)
      (Machine.onMemory op : Action (Machine b' τ) α) := by
  intro m m' h
  unfold Machine.onMemory
  rw [h.memory]
  cases op m.memory with
  | error f => exact .inr ⟨rfl, h⟩
  | ok p => exact .inr ⟨rfl, { h with memory := rfl }⟩

theorem changeMemory (op : Memory → Except Fault Memory) :
    InStep ρ eased (changeMemory op : Action (Machine b σ) Unit)
      (Machine.changeMemory op : Action (Machine b' τ) Unit) := by
  intro m m' h
  unfold Machine.changeMemory
  rw [h.memory]
  cases op m.memory with
  | error f => exact .inr ⟨rfl, h⟩
  | ok mem => exact .inr ⟨rfl, { h with memory := rfl }⟩

theorem push (v : Int) :
    InStep ρ eased (onStack (Stack.push v) : Action (Machine b σ) Unit)
      (onStack (Stack.push v) : Action (Machine b' τ) Unit) := by
  intro m m' h
  have hS := h.registers .S
  unfold onStack
  rw [Action.on_apply, Action.on_apply]
  unfold Stack.push
  simp only
  by_cases hf : m.registers.get .S = 0xFF ∧ m.stack.wraps = false
  · rw [if_pos hf]
    by_cases hf' : m'.registers.get .S = 0xFF ∧ m'.stack.wraps = false
    · rw [if_pos hf', hS]
      exact .inr ⟨rfl, h⟩
    -- Only the ease explains that the second stack goes on where the first one refuses.
    · exact .inl ⟨h.eased_of_refused hf hf', .inl rfl⟩
  · rw [if_neg hf, if_neg fun hf' => hf (h.full _ hf'), h.stack, hS]
    cases m.stack.memory.write (byteValue (m.registers.get .S)) v with
    | error f => exact .inr ⟨rfl, h⟩
    | ok mem => exact .inr ⟨rfl, { h with stack := rfl, registers := h.set .S _ }⟩

theorem pop :
    InStep ρ eased (onStack Stack.pop : Action (Machine b σ) UInt8)
      (onStack Stack.pop : Action (Machine b' τ) UInt8) := by
  intro m m' h
  have hS := h.registers .S
  unfold onStack
  rw [Action.on_apply, Action.on_apply]
  unfold Stack.pop
  simp only
  by_cases hf : m.registers.get .S = 0 ∧ m.stack.wraps = false
  · rw [if_pos hf]
    by_cases hf' : m'.registers.get .S = 0 ∧ m'.stack.wraps = false
    · rw [if_pos hf']
      exact .inr ⟨rfl, h⟩
    · exact .inl ⟨h.eased_of_refused hf hf', .inr rfl⟩
  · rw [if_neg hf, if_neg fun hf' => hf (h.full _ hf'), h.stack, hS]
    cases m.stack.memory.read (byteValue (m.registers.get .S - 1)) with
    | error f => exact .inr ⟨rfl, { h with registers := h.set .S _ }⟩
    | ok p => exact .inr ⟨rfl, { h with stack := rfl, registers := h.set .S _ }⟩

theorem onHost {request : σ → Except HostFailure α × σ} {request' : τ → Except HostFailure α × τ}
    (hr : SameAnswers ρ request request') (blame : HostFailure → Fault) :
    InStep ρ eased (onHost request blame : Action (Machine b σ) α)
      (Machine.onHost request' blame : Action (Machine b' τ) α) := by
  intro m m' h
  obtain ⟨ha, hs⟩ := hr _ _ h.host
  refine .inr ⟨?_, { h with host := hs }⟩
  exact congrArg (Except.mapError blame) ha

/-! ## System calls -/

theorem checkPlacement (start count : Int) :
    InStep ρ eased (checkPlacement start count : Action (Machine b σ) Unit)
      (Machine.checkPlacement start count : Action (Machine b' τ) Unit) := by
  intro m m' h
  have hl : m'.Misplaced start count ↔ m.Misplaced start count := by
    unfold Misplaced
    rw [h.program]
  by_cases hp : m.Misplaced start count
  · rw [checkPlacement_of_misplaced hp, checkPlacement_of_misplaced (hl.2 hp), h.program]
    exact .inr ⟨rfl, h⟩
  · rw [checkPlacement_of_not_misplaced hp,
      checkPlacement_of_not_misplaced fun hp' => hp (hl.1 hp')]
    exact .inr ⟨rfl, h⟩

theorem writeCode (start : Int) (code : List Instruction) :
    InStep ρ eased (writeCode start code : Action (Machine b σ) Unit)
      (Machine.writeCode start code : Action (Machine b' τ) Unit) := by
  refine bind (checkPlacement start code.length) fun _ m m' h => ?_
  refine .inr ⟨rfl, { h with program := ?_ }⟩
  exact congrArg (fun p => spliceFrom p start code) h.program

theorem openFile (hH : Host.Mirrors ρ H H') (address : Int) :
    InStep ρ eased (openFile H address : Action (Machine b σ) Int)
      (Machine.openFile H' address : Action (Machine b' τ) Int) := by
  refine bind (onMemory _) fun path => bind (onHost (hH.openFile path) _) fun fd => ?_
  by_cases hfd : 0xFF < fd
  · rw [if_pos hfd, if_pos hfd]
    exact bind (onHost (hH.close fd) _) fun _ => fail _
  · rw [if_neg hfd, if_neg hfd]
    refine bind (fun m m' h => ?_) fun _ => pure (fd : Int)
    refine .inr ⟨rfl, { h with descriptors := ?_, diagnostics := ?_ }⟩
    · exact congrArg (fun d => d.insert fd path) h.descriptors
    · exact congrArg (fun d => d.push (.opened path fd)) h.diagnostics

theorem readCode (hH : Host.Mirrors ρ H H') (hd : decodeProgram b' = decodeProgram b)
    (fd start count : Int) :
    InStep ρ eased (readCode H fd start count : Action (Machine b σ) Int)
      (Machine.readCode H' fd start count : Action (Machine b' τ) Int) := by
  unfold Machine.readCode
  rw [hd]
  refine bind (checkPlacement start count) fun _ =>
    bind (onHost (hH.read fd _) _) fun data => bind (fun m m' h => .inr ⟨rfl, h⟩) fun code => ?_
  exact bind (writeCode start code) fun _ => pure _

theorem readMemory (hH : Host.Mirrors ρ H H') (fd start count : Int) :
    InStep ρ eased (readMemory H fd start count : Action (Machine b σ) Int)
      (Machine.readMemory H' fd start count : Action (Machine b' τ) Int) := by
  intro m m' h
  unfold Machine.readMemory
  rw [Action.bind_apply_ok (Action.state_apply m), Action.bind_apply_ok (Action.state_apply m'),
    h.memory]
  by_cases hs : (m.memory.size : Int) < start + count
  · rw [if_pos hs, if_pos hs]
    exact .inr ⟨rfl, h⟩
  · rw [if_neg hs, if_neg hs]
    have hx : InStep ρ eased
        (Machine.onHost (H.read fd count) (.readFailed fd) >>= fun data =>
          Machine.changeMemory (fun mem => mem.writeRange start data) >>= fun _ =>
            Pure.pure (data.length : Int) : Action (Machine b σ) Int)
        (Machine.onHost (H'.read fd count) (.readFailed fd) >>= fun data =>
          Machine.changeMemory (fun mem => mem.writeRange start data) >>= fun _ =>
            Pure.pure (data.length : Int) : Action (Machine b' τ) Int) :=
      bind (onHost (hH.read fd count) _) fun data => bind (changeMemory _) fun _ => pure _
    exact hx m m' h

theorem writeHost (hH : Host.Mirrors ρ H H') (fd start count : Int) :
    InStep ρ eased (writeHost H fd start count : Action (Machine b σ) Int)
      (Machine.writeHost H' fd start count : Action (Machine b' τ) Int) :=
  bind (onMemory _) fun data => bind (onHost (hH.write fd data) _) fun n => pure (n : Int)

theorem sleep (hH : Host.Mirrors ρ H H') (seconds : Int) :
    InStep ρ eased (sleep H seconds : Action (Machine b σ) Int)
      (Machine.sleep H' seconds : Action (Machine b' τ) Int) := by
  unfold Machine.sleep
  rw [hH.sleepRefusal]
  cases H.sleepRefusal seconds with
  | some f => exact fail _
  | none =>
    refine bind (fun m m' h => ?_) fun _ => pure 0
    exact .inr ⟨rfl, { h with host := hH.sleep seconds _ _ h.host }⟩

/-- Only reading code asks more of the encodings than their system calls. -/
theorem dispatch (hb : b.SameMeaning b') (hH : Host.Mirrors ρ H H') {code : Int}
    (hd : Syscall.ofCode? b code = some .readCode → decodeProgram b' = decodeProgram b)
    (x y z : Int) :
    InStep ρ eased (dispatch H code x y z : Action (Machine b σ) Int)
      (Machine.dispatch H' code x y z : Action (Machine b' τ) Int) := by
  unfold Machine.dispatch
  rw [hb.ofCode?]
  cases hs : Syscall.ofCode? b code with
  | none => exact fail _
  | some s =>
    have ht : InStep ρ eased (Action.modify fun m : Machine b σ => m.tell (.called s x y z))
        (Action.modify fun m' : Machine b' τ => m'.tell (.called s x y z)) := by
      intro m m' h
      refine .inr ⟨rfl, { h with diagnostics := ?_ }⟩
      exact congrArg (fun d => d.push (.called s x y z)) h.diagnostics
    refine bind ht fun _ => ?_
    cases s with
    | openFile => exact openFile hH x
    | readCode => exact readCode hH (hd hs) x y z
    | readMemory => exact readMemory hH x y z
    | write => exact writeHost hH x y z
    | sleep => exact sleep hH x
    | exit => exact fail _

end InStep

/-! ## Instructions -/

/-- The instruction asks for code to be read. -/
def Reads (b : Bindings) (i : Instruction) : Prop :=
  ∃ result, i = .sys (b.syscalls.get .readCode) result

instance (b : Bindings) (i : Instruction) : Decidable (Reads b i) :=
  match i with
  | .sys number result =>
    decidable_of_iff (number = b.syscalls.get .readCode)
      ⟨fun h => ⟨result, h ▸ rfl⟩, fun ⟨_, h⟩ => (Instruction.sys.inj h).1⟩
  | .imm .. | .add .. | .stk .. | .stm .. | .ldm .. | .cmp .. | .jmp .. | .bare => isFalse nofun

theorem execute_inStep (hb : b.SameMeaning b') (hH : Host.Mirrors ρ H H') (i : Instruction)
    (hd : Reads b i → decodeProgram b' = decodeProgram b) :
    InStep ρ eased (execute H i : Action (Machine b σ) Unit)
      (execute H' i : Action (Machine b' τ) Unit) := by
  cases i with
  | imm dst value => exact .writeOperand dst _
  | add dst src =>
    exact .bind (.readOperand dst) fun x => .bind (.readOperand src) fun y => .writeOperand dst _
  | stk popTo pushFrom =>
    have hpop : ∀ r : Register, InStep ρ eased
        (onStack Stack.pop >>= fun x => writeOperand (some r) (byteValue x) :
          Action (Machine b σ) Unit)
        (onStack Stack.pop >>= fun x => writeOperand (some r) (byteValue x) :
          Action (Machine b' τ) Unit) := fun r =>
      .bind .pop fun x => .writeOperand (some r) _
    cases pushFrom with
    | none =>
      cases popTo with
      | none => exact .pure ()
      | some r => exact hpop r
    | some q =>
      cases popTo with
      | none => exact .bind (.readOperand (some q)) fun x => .bind (.push _) fun _ => .pure ()
      | some r => exact .bind (.readOperand (some q)) fun x => .bind (.push _) fun _ => hpop r
  | stm address value =>
    exact .bind (.readOperand address) fun a => .bind (.readOperand value) fun x =>
      .changeMemory _
  | ldm dst address =>
    exact .bind (.readOperand address) fun a => .bind (.onMemory _) fun x => .writeOperand dst _
  | cmp left right =>
    refine .bind (.readOperand left) fun x => .bind (.readOperand right) fun y => ?_
    rw [hb.comparisonFlags]
    exact .writeOperand (some .F) _
  | jmp condition target =>
    refine .bind (.readOperand (some .F)) fun flags => ?_
    by_cases hf : flags &&& condition ≠ 0
    · rw [if_pos hf, if_pos hf]
      exact .bind (.readOperand target) fun x => .writeOperand (some .I) _
    · rw [if_neg hf, if_neg hf]
      exact .pure ()
  | sys number result =>
    have hc : Syscall.ofCode? b (byteValue number) = some .readCode →
        decodeProgram b' = decodeProgram b := by
      intro h
      rw [Syscall.ofCode?_byteValue_iff] at h
      exact hd ⟨result, by rw [h]⟩
    exact .bind (.readOperand (some .A)) fun x => .bind (.readOperand (some .B)) fun y =>
      .bind (.readOperand (some .C)) fun z => .bind (.dispatch hb hH hc _ _ _) fun v =>
        .writeOperand result v
  | bare => exact .fail _

/-! ## Steps -/

/-- The next instruction is carried out and asks for code to be read. -/
def ReadsCode (m : Machine b σ) : Prop := m.exitCode = none ∧ ∃ i, m.fetch = .ok i ∧ Reads b i

instance (m : Machine b σ) : Decidable m.ReadsCode :=
  decidable_of_iff
    (m.exitCode = none ∧ ∃ i ∈ m.program[(m.registers.get .I).toNat]?, Reads b i)
    (by simp only [ReadsCode, fetch_eq_ok_iff, Option.mem_def])

theorem Twins.fetch (h : Twins ρ eased m m') : m'.fetch = m.fetch := by
  unfold Machine.fetch
  rw [h.registers, h.program]

theorem Twins.toList (h : Twins ρ eased m m') : m'.registers.toList = m.registers.toList := by
  unfold RegisterFile.toList
  apply List.map_congr_left
  intro r _
  rw [h.registers]

theorem Twins.clearLogs (h : Twins ρ eased m m') : Twins ρ eased m.clearLogs m'.clearLogs :=
  { h with
    memory := congrArg (fun mem => mem.takeLog.2) h.memory
    stack := congrArg (fun mem => mem.takeLog.2) h.stack }

theorem Twins.begun (h : Twins ρ eased m m') (i : Instruction) :
    Twins ρ eased (m.begun i) (m'.begun i) := by
  refine { h.clearLogs with registers := ?_, observed := ?_ }
  · intro q
    change (m'.registers.set .I (m'.registers.get .I + 1)).get q = _
    rw [h.registers]
    exact h.set .I _ q
  · exact congrArg (fun o => o.push i) h.observed

theorem Twins.conclude (h : Twins ρ eased m m') (hb : b.SameMeaning b') (index : UInt8)
    (i : Instruction) (exit : Option Int) :
    Parallel ρ eased
      (Except.ok (conclude index i exit m).1, (conclude index i exit m).2)
      (Except.ok (Machine.conclude index i exit m').1, (Machine.conclude index i exit m').2) := by
  have ha : m'.accesses = m.accesses := by
    unfold accesses
    rw [h.memory, h.stack]
  have hs : (Machine.conclude index i exit m').1 = (Machine.conclude index i exit m).1 := by
    unfold Machine.conclude
    simp only [h.toList, h.steps, hb.text, ha]
  refine .inr ⟨congrArg Except.ok hs, ?_⟩
  refine { h.clearLogs with steps := congrArg (· + 1) h.steps, diagnostics := ?_ }
  change m'.diagnostics.push _ = m.diagnostics.push _
  rw [h.diagnostics, hb.text, h.toList]

theorem Twins.step (h : Twins ρ eased m m') (hb : b.SameMeaning b') (hH : Host.Mirrors ρ H H')
    (hd : m.ReadsCode → decodeProgram b' = decodeProgram b) :
    Parallel ρ eased (step H m) (Machine.step H' m') := by
  have hI := h.registers .I
  have hexec : ∀ i, m.exitCode = none → m.fetch = .ok i →
      Parallel ρ eased (execute H i (m.begun i)) (execute H' i (m'.begun i)) := fun i hx hf =>
    execute_inStep hb hH i (fun hi => hd ⟨hx, i, hf, hi⟩) _ _ (h.begun i)
  -- The way in which the first step ends is given to the second one, case by case.
  cases hs : Machine.step H m with
  | mk r m1 =>
    cases step_eq_iff.1 hs with
    | halted hx =>
      rw [(Steps.halted (h.exitCode.trans hx)).step_eq]
      exact .inr ⟨rfl, h⟩
    | unfetched hx hf =>
      rw [(Steps.unfetched (h.exitCode.trans hx) (h.fetch.trans hf)).step_eq]
      exact .inr ⟨rfl, h.clearLogs⟩
    | @done i m1 hx hf he =>
      have hp := hexec i hx hf
      rw [he] at hp
      obtain ⟨-, hk⟩ | ⟨hr, ht⟩ := hp
      · exact hk.elim
      · rw [(Steps.done (h.exitCode.trans hx) (h.fetch.trans hf) (Prod.ext hr rfl)).step_eq, hI]
        exact ht.conclude hb _ i none
    | @exited i code m1 hx hf he =>
      have hp := hexec i hx hf
      rw [he] at hp
      obtain ⟨-, hk⟩ | ⟨hr, ht⟩ := hp
      · exact absurd hk (by simp [StackFault, Fault.kind])
      · rw [(Steps.exited (h.exitCode.trans hx) (h.fetch.trans hf) (Prod.ext hr rfl)).step_eq, hI]
        have ht' : Twins ρ eased { m1 with exitCode := some code }
            { (execute H' i (m'.begun i)).2 with exitCode := some code } :=
          { ht with exitCode := rfl }
        exact ht'.conclude hb _ i (some code)
    | @failed i f m1 hx hf he hn =>
      have hp := hexec i hx hf
      rw [he] at hp
      obtain ⟨ha, hk⟩ | ⟨hr, ht⟩ := hp
      · exact .inl ⟨ha, hk⟩
      · rw [(Steps.failed (h.exitCode.trans hx) (h.fetch.trans hf) (Prod.ext hr rfl) hn).step_eq]
        exact .inr ⟨rfl, ht⟩

/-! ## Many steps -/

/-- Twins stay twins, and their steps end alike, until code is read that the two encodings may read
differently, or a stack is at its end that may be at its end for one of them only. -/
theorem Twins.after (hb : b.SameMeaning b') (hH : Host.Mirrors ρ H H') (n : Nat)
    (h : Twins ρ eased m m')
    (hd : ∀ k < n, (after H k m).ReadsCode → decodeProgram b' = decodeProgram b)
    (hs : eased → ∀ r ∈ outcomes H n m, ¬ StackFault r) :
    outcomes H' n m' = outcomes H n m ∧ Twins ρ eased (after H n m) (Machine.after H' n m') := by
  induction n generalizing m m' with
  | zero => exact ⟨rfl, h⟩
  | succ n ih =>
    obtain ⟨he, hk⟩ | ⟨hr, ht⟩ := h.step hb hH (hd 0 (Nat.succ_pos n))
    · exact absurd hk (hs he _ List.mem_cons_self)
    · have ht : Twins ρ eased (next H m) (next H' m') := ht
      obtain ⟨ho, ht'⟩ := ih ht
        (fun k hk hc => hd (k + 1) (Nat.succ_lt_succ hk) (by rw [after_succ]; exact hc))
        (fun he r hr => hs he r (List.mem_cons_of_mem _ hr))
      rw [after_succ, after_succ]
      refine ⟨?_, ht'⟩
      unfold outcomes
      rw [ho, hr]

/-! ## Runs and closing -/

theorem Parallel.twins {r : Except Fault α × Machine b σ} {r' : Except Fault α × Machine b' τ}
    (h : Parallel ρ False r r') : r'.1 = r.1 ∧ Twins ρ False r.2 r'.2 :=
  h.resolve_left fun h => h.1

theorem Twins.run (hb : b.SameMeaning b') (hH : Host.Mirrors ρ H H')
    (hd : decodeProgram b' = decodeProgram b) (h : Twins ρ False m m') {limit : Option Int}
    {rounds : Nat} {r : Except Fault Int} {m1 : Machine b σ}
    (hr : run H limit rounds m = some (r, m1)) :
    ∃ m1', Machine.run H' limit rounds m' = some (r, m1') ∧ Twins ρ False m1 m1' := by
  induction rounds generalizing m m' with
  | zero => cases hr
  | succ rounds ih =>
    have hl' : reached limit m' = reached limit m := by
      unfold reached
      rw [h.steps]
    obtain ⟨hs', ht⟩ := (h.step hb hH fun _ => hd).twins
    cases round H limit m with
    | halted hx he =>
      cases (he rounds).symm.trans hr
      exact ⟨m', run_halted (h.exitCode.trans hx) rounds, h⟩
    | stopped hx hl he =>
      cases (he rounds).symm.trans hr
      exact ⟨m', run_reached (h.exitCode.trans hx) (hl'.trans hl) rounds, h⟩
    | failed hx hl hs he =>
      cases (he rounds).symm.trans hr
      rw [hs] at hs'
      exact ⟨_, run_failed (h.exitCode.trans hx) (hl'.trans hl) (Prod.ext hs' rfl) rounds, ht⟩
    | went hl hs he =>
      rw [he] at hr
      rw [hs] at hs'
      obtain ⟨m1', hr', ht'⟩ := ih ht hr
      refine ⟨m1', ?_, ht'⟩
      rw [run_step (hl'.trans hl) (Prod.ext hs' rfl)]
      exact hr'

theorem Twins.closeOne (hH : Host.Mirrors ρ H H') (h : Twins ρ eased m m')
    (e : Nat × List UInt8) : Twins ρ eased (closeOne H m e) (Machine.closeOne H' m' e) := by
  obtain ⟨ha, hs⟩ := hH.close e.1 _ _ h.host
  unfold Machine.closeOne
  simp only
  rw [ha]
  cases (H.close e.1 m.host).1 with
  | ok u => exact { h with host := hs }
  | error f =>
    refine { h with host := hs, diagnostics := ?_ }
    exact congrArg (fun d => d.push (.notClosed e.1 e.2 f)) h.diagnostics

theorem Twins.close (hH : Host.Mirrors ρ H H') (h : Twins ρ eased m m') :
    Twins ρ eased (close H m) (Machine.close H' m') := by
  have hf : ∀ es, Twins ρ eased (List.foldl (Machine.closeOne H) m es)
      (List.foldl (Machine.closeOne H') m' es) := by
    intro es
    induction es generalizing m m' with
    | nil => exact h
    | cons e es ih => exact ih (h.closeOne hH e)
  have hc := hf m.descriptors.entries.reverse
  unfold Machine.close
  rw [h.descriptors]
  exact { hc with descriptors := rfl }

end Machine

end Yan85
