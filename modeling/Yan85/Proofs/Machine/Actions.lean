import Yan85.Proofs.Codec.Decoding
import Yan85.Proofs.Machine.Calls
import Yan85.Proofs.Memory.Replay

/-! # What instructions are made of

* `Closed P`: the property `P` of actions holds of the accesses to registers, memory and stack, and
  of actions one after the other. `execute_of_closed`: then it holds of every instruction, if it holds
  of the system call that the instruction makes.
* `Tolerant R`: a relation between the states before and after that allows for such accesses.
* `Blames kinds x`: the action `x` fails only with faults of the given kinds.
* `Counted m m'`: neither the number of steps nor the exit has changed.
-/

namespace Yan85.Machine
set_option autoImplicit false

variable {b : Bindings} {σ α β : Type} {H : Host σ} {m m' : Machine b σ}

/-! ## Properties of actions -/

/-- A property of actions that accesses have and that actions one after the other keep. -/
structure Closed (P : ∀ {α : Type}, Action (Machine b σ) α → Prop) : Prop where
  pure : ∀ {α : Type} (a : α), P (pure a : Action (Machine b σ) α)
  bind : ∀ {α β : Type} {x : Action (Machine b σ) α} {g : α → Action (Machine b σ) β},
    P x → (∀ a, P (g a)) → P (x >>= g)
  readOperand : ∀ o, P (readOperand o : Action (Machine b σ) UInt8)
  writeOperand : ∀ o v, P (writeOperand o v : Action (Machine b σ) Unit)
  read : ∀ a, P (onMemory fun mem => mem.read a : Action (Machine b σ) UInt8)
  write : ∀ a v, P (changeMemory fun mem => mem.write a v : Action (Machine b σ) Unit)
  push : ∀ v, P (onStack (Stack.push v) : Action (Machine b σ) Unit)
  pop : P (onStack Stack.pop : Action (Machine b σ) UInt8)

theorem execute_of_closed {P : ∀ {α : Type}, Action (Machine b σ) α → Prop} (hP : Closed P)
    (H : Host σ) {i : Instruction}
    (hs : ∀ number result, i = .sys number result → ∀ x y z,
      P (dispatch H (byteValue number) x y z : Action (Machine b σ) Int))
    (hb : i = .bare → P (Action.fail .notExecutable : Action (Machine b σ) Unit)) :
    P (execute H i : Action (Machine b σ) Unit) := by
  cases i with
  | imm dst value => exact hP.writeOperand dst _
  | add dst src =>
    exact hP.bind (hP.readOperand dst) fun _ => hP.bind (hP.readOperand src) fun _ =>
      hP.writeOperand dst _
  | stk popTo pushFrom =>
    have hpop : ∀ r : Register, P (onStack Stack.pop >>= fun x =>
        writeOperand (some r) (byteValue x) : Action (Machine b σ) Unit) := fun r =>
      hP.bind hP.pop fun x => hP.writeOperand (some r) (byteValue x)
    cases popTo with
    | none =>
      cases pushFrom with
      | none => exact hP.pure ()
      | some q =>
        exact hP.bind (hP.readOperand _) fun x => hP.bind (hP.push _) fun _ => hP.pure ()
    | some r =>
      cases pushFrom with
      | none => exact hpop r
      | some q =>
        exact hP.bind (hP.readOperand _) fun x => hP.bind (hP.push _) fun _ => hpop r
  | stm address value =>
    exact hP.bind (hP.readOperand address) fun _ => hP.bind (hP.readOperand value) fun _ =>
      hP.write _ _
  | ldm dst address =>
    exact hP.bind (hP.readOperand address) fun _ => hP.bind (hP.read _) fun _ =>
      hP.writeOperand dst _
  | cmp left right =>
    exact hP.bind (hP.readOperand left) fun _ => hP.bind (hP.readOperand right) fun _ =>
      hP.writeOperand (some .F) _
  | jmp condition target =>
    refine hP.bind (hP.readOperand (some .F)) fun flags => ?_
    by_cases h : flags &&& condition ≠ 0
    · rw [if_pos h]
      exact hP.bind (hP.readOperand target) fun _ => hP.writeOperand (some .I) _
    · rw [if_neg h]
      exact hP.pure ()
  | sys number result =>
    exact hP.bind (hP.readOperand (some .A)) fun x => hP.bind (hP.readOperand (some .B)) fun y =>
      hP.bind (hP.readOperand (some .C)) fun z =>
        hP.bind (hs number result rfl (byteValue x) (byteValue y) (byteValue z)) fun v =>
          hP.writeOperand result v
  | bare => exact hb rfl

/-! ## Relations between states -/

/-- A relation between states that allows for changes of registers, recorded accesses, and being told
of a system call. -/
structure Tolerant (R : Machine b σ → Machine b σ → Prop) : Prop where
  refl : ∀ m, R m m
  trans : ∀ {m m' m''}, R m m' → R m' m'' → R m m''
  registers : ∀ m rf, R m { m with registers := rf }
  memory : ∀ m mem, m.memory.Logged mem → R m { m with memory := mem }
  stack : ∀ m mem rf, m.stack.memory.Logged mem →
    R m { m with stack := { m.stack with memory := mem }, registers := rf }
  called : ∀ m s x y z, R m (m.tell (.called s x y z))

/-- The action leads every state to one that is in the relation to it. -/
def Within (R : Machine b σ → Machine b σ → Prop) (x : Action (Machine b σ) α) : Prop :=
  ∀ m, R m (x m).2

theorem Tolerant.bind {R : Machine b σ → Machine b σ → Prop} (hR : Tolerant R)
    {x : Action (Machine b σ) α} {g : α → Action (Machine b σ) β} (hx : Within R x)
    (hg : ∀ a, Within R (g a)) : Within R (x >>= g) := by
  intro m
  have h := hx m
  cases hr : x m with
  | mk r m' =>
    rw [hr] at h
    cases r with
    | error f =>
      rw [Action.bind_apply_error hr]
      exact h
    | ok a =>
      rw [Action.bind_apply_ok hr]
      exact hR.trans h (hg a m')

theorem Tolerant.push {R : Machine b σ → Machine b σ → Prop} (hR : Tolerant R) (v : Int) :
    Within R (onStack (Stack.push v)) := by
  intro m
  unfold onStack
  rw [Action.on_apply]
  unfold Stack.push
  simp only
  split
  · exact hR.refl m
  · cases hw : m.stack.memory.write (byteValue (m.registers.get .S)) v with
    | error f => exact hR.refl m
    | ok mem => exact hR.stack m mem _ (Memory.logged_write hw)

theorem Tolerant.pop {R : Machine b σ → Machine b σ → Prop} (hR : Tolerant R) :
    Within R (onStack Stack.pop) := by
  intro m
  unfold onStack
  rw [Action.on_apply]
  unfold Stack.pop
  simp only
  split
  · exact hR.refl m
  · cases hr : m.stack.memory.read (byteValue (m.registers.get .S - 1)) with
    -- A pop that cannot read has moved `S` down already.
    | error f => exact hR.registers m _
    | ok p => exact hR.stack m p.2 _ (Memory.logged_read hr)

theorem Tolerant.closed {R : Machine b σ → Machine b σ → Prop} (hR : Tolerant R) :
    Closed (fun x => Within R x) where
  pure := fun a m => hR.refl m
  bind := hR.bind
  readOperand := fun o m => hR.refl m
  writeOperand := by
    intro o v m
    unfold writeOperand
    cases m.registers.write o v with
    | error f => exact hR.refl m
    | ok rf => exact hR.registers m rf
  read := by
    intro a m
    simp only [onMemory]
    cases hr : m.memory.read a with
    | error f => exact hR.refl m
    | ok p => exact hR.memory m p.2 (Memory.logged_read hr)
  write := by
    intro a v m
    simp only [changeMemory]
    cases hw : m.memory.write a v with
    | error f => exact hR.refl m
    | ok mem => exact hR.memory m mem (Memory.logged_write hw)
  push := hR.push
  pop := hR.pop

/-- A tolerant relation that holds along system calls holds along instructions. -/
theorem Tolerant.execute {R : Machine b σ → Machine b σ → Prop} (hR : Tolerant R)
    (hc : ∀ m x y z s r m', Calls H m x y z s r m' → R m m') {i : Instruction}
    {r : Except Fault Unit} (h : Machine.execute H i m = (r, m')) : R m m' := by
  have he : Within R (Machine.execute H i : Action (Machine b σ) Unit) := by
    refine execute_of_closed hR.closed H (fun number result _ x y z m => ?_) fun _ m => hR.refl m
    cases hd : dispatch H (byteValue number) x y z m with
    | mk r m' =>
      obtain ⟨-, -, rfl⟩ | ⟨s, -, hs⟩ := dispatch_cases hd
      · exact hR.refl m'
      · exact hR.trans (hR.called m s x y z) (hc _ _ _ _ _ _ _ hs)
  have hm := he m
  rw [h] at hm
  exact hm

/-! ## Steps and exits -/

/-- Neither the number of steps nor the exit has changed. -/
structure Counted (m m' : Machine b σ) : Prop where
  steps : m'.steps = m.steps
  exitCode : m'.exitCode = m.exitCode

theorem tolerant_counted : Tolerant (Counted : Machine b σ → Machine b σ → Prop) where
  refl := fun _ => ⟨rfl, rfl⟩
  trans := fun h h' => ⟨h'.steps.trans h.steps, h'.exitCode.trans h.exitCode⟩
  registers := fun _ _ => ⟨rfl, rfl⟩
  memory := fun _ _ _ => ⟨rfl, rfl⟩
  stack := fun _ _ _ _ => ⟨rfl, rfl⟩
  called := fun _ _ _ _ _ => ⟨rfl, rfl⟩

theorem Calls.counted {x y z : Int} {s : Syscall} {r : Except Fault Int}
    (h : Calls H m x y z s r m') : m.Counted m' := by
  cases h with
  | _ => exact ⟨rfl, rfl⟩

theorem execute_counted {i : Instruction} {r : Except Fault Unit} (h : execute H i m = (r, m')) :
    m.Counted m' :=
  tolerant_counted.execute (fun _ _ _ _ _ _ _ hc => hc.counted) h

/-! ## Kinds of faults -/

/-- The action fails only with faults of these kinds. -/
def Blames (kinds : List FaultKind) (x : Action (Machine b σ) α) : Prop :=
  ∀ m f m', x m = (.error f, m') → f.kind ∈ kinds

/-- The kinds of faults of accesses. -/
def accessKinds : List FaultKind :=
  [.invalidOperand, .value, .outOfBounds, .stackOverflow, .stackUnderflow]

theorem Blames.bind {kinds : List FaultKind} {x : Action (Machine b σ) α}
    {g : α → Action (Machine b σ) β} (hx : Blames kinds x) (hg : ∀ a, Blames kinds (g a)) :
    Blames kinds (x >>= g) := by
  intro m f m' h
  cases hr : x m with
  | mk r m1 =>
    cases r with
    | error e =>
      rw [Action.bind_apply_error hr] at h
      cases h
      exact hx m f m' hr
    | ok a =>
      rw [Action.bind_apply_ok hr] at h
      exact hg a m1 f m' h

theorem blames_readOperand (o : Operand) :
    Blames accessKinds (readOperand o : Action (Machine b σ) UInt8) := by
  intro m f m' h
  cases o with
  | none =>
    cases h
    decide
  | some r => cases h

theorem blames_writeOperand (o : Operand) (v : Int) :
    Blames accessKinds (writeOperand o v : Action (Machine b σ) Unit) := by
  intro m f m' h
  cases o with
  | none =>
    cases h
    decide
  | some r =>
    obtain ⟨rfl, -, -⟩ := writeOperand_error h
    simp [accessKinds, Fault.kind]

theorem kind_of_memory_read {mem : Memory} {a : Int} {f : Fault} (h : mem.read a = .error f) :
    f.kind = .outOfBounds := by
  unfold Memory.read at h
  obtain h | ⟨i, -, h⟩ := bind_eq_error h
  · rw [Memory.index?_error h]
    simp [Fault.kind]
  · cases h

theorem kind_of_memory_write {mem : Memory} {a v : Int} {f : Fault}
    (h : mem.write a v = .error f) : f.kind = .outOfBounds ∨ f.kind = .value := by
  unfold Memory.write at h
  obtain h | ⟨i, -, h⟩ := bind_eq_error h
  · rw [Memory.index?_error h]
    simp [Fault.kind]
  · cases hv : byte? v with
    | none =>
      rw [hv] at h
      cases h
      simp [Fault.kind]
    | some x =>
      rw [hv] at h
      cases h

/-- The kinds of faults of a memory are among those of accesses. -/
theorem memory_kind_mem {k : FaultKind} (h : k = .outOfBounds ∨ k = .value) : k ∈ accessKinds := by
  obtain rfl | rfl := h <;> decide

theorem blames_push (v : Int) :
    Blames accessKinds (onStack (Stack.push v) : Action (Machine b σ) Unit) := by
  intro m f m' h
  unfold onStack at h
  rw [Action.on_apply] at h
  unfold Stack.push at h
  simp only at h
  split at h
  · cases h
    simp [accessKinds, Fault.kind]
  · cases hw : m.stack.memory.write (byteValue (m.registers.get .S)) v with
    | error e =>
      rw [hw] at h
      cases h
      exact memory_kind_mem (kind_of_memory_write hw)
    | ok mem =>
      rw [hw] at h
      cases h

theorem blames_pop : Blames accessKinds (onStack Stack.pop : Action (Machine b σ) UInt8) := by
  intro m f m' h
  unfold onStack at h
  rw [Action.on_apply] at h
  unfold Stack.pop at h
  simp only at h
  split at h
  · cases h
    simp [accessKinds, Fault.kind]
  · cases hr : m.stack.memory.read (byteValue (m.registers.get .S - 1)) with
    | error e =>
      rw [hr] at h
      cases h
      exact memory_kind_mem (.inl (kind_of_memory_read hr))
    | ok p =>
      rw [hr] at h
      cases h

theorem closed_blames {kinds : List FaultKind} (hk : ∀ k ∈ accessKinds, k ∈ kinds) :
    Closed (fun x : Action (Machine b σ) _ => Blames kinds x) where
  pure := fun a m f m' h => by cases h
  bind := Blames.bind
  readOperand := fun o m f m' h => hk _ (blames_readOperand o m f m' h)
  writeOperand := fun o v m f m' h => hk _ (blames_writeOperand o v m f m' h)
  read := by
    intro a m f m' h
    simp only [onMemory] at h
    cases hr : m.memory.read a with
    | error e =>
      rw [hr] at h
      cases h
      exact hk _ (memory_kind_mem (.inl (kind_of_memory_read hr)))
    | ok p =>
      rw [hr] at h
      cases h
  write := by
    intro a v m f m' h
    simp only [changeMemory] at h
    cases hw : m.memory.write a v with
    | error e =>
      rw [hw] at h
      cases h
      exact hk _ (memory_kind_mem (kind_of_memory_write hw))
    | ok mem =>
      rw [hw] at h
      cases h
  push := fun v m f m' h => hk _ (blames_push v m f m' h)
  pop := fun m f m' h => hk _ (blames_pop m f m' h)

end Yan85.Machine
