import Mathlib.Logic.Function.Basic
import Yan85.Bindings.Standard
import Yan85.Host.Simulated
import Yan85.Proofs.Machine.Effects
import Yan85.Proofs.Machine.Steps

/-! # The machine against a reference

* `Reference`: a machine whose registers are a map and whose memories are maps on bytes. It knows
  nothing of slots, records and snapshots.
* `Command`: the instructions that make no system call, with all registers that they need.
* `Reference.step`: moves `I` on and carries out a command, by arithmetic modulo 256.
* `step_refines_reference`: a step of the machine is the step of its reference.
-/

namespace Yan85
set_option autoImplicit false

/-! ## The reference machine -/

/-- Registers as a map, and two memories addressed by bytes. -/
@[ext] structure Reference where
  registers : Register → UInt8
  memory : UInt8 → UInt8
  stack : UInt8 → UInt8

/-- An instruction that makes no system call, with all registers that it needs. -/
inductive Command
  | imm (dst : Register) (value : UInt8)
  | add (dst src : Register)
  | stk (popTo pushFrom : Option Register)
  | stm (address value : Register)
  | ldm (dst address : Register)
  | cmp (left right : Register)
  | jmp (condition : UInt8) (target : Register)

def Command.instruction : Command → Instruction
  | imm dst value => .imm (some dst) value
  | add dst src => .add (some dst) (some src)
  | stk popTo pushFrom => .stk popTo pushFrom
  | stm address value => .stm (some address) (some value)
  | ldm dst address => .ldm (some dst) (some address)
  | cmp left right => .cmp (some left) (some right)
  | jmp condition target => .jmp condition (some target)

namespace Reference

/-- A number modulo 256. -/
def wrapped (n : Nat) : UInt8 := UInt8.ofNat (n % 256)

/-- The flags of a comparison: the order of the two bytes, and whether both are zero. -/
def compared (flags : Flag → UInt8) (x y : UInt8) : UInt8 :=
  (if x.toNat < y.toNat then flags .less ||| flags .unequal
    else if y.toNat < x.toNat then flags .greater ||| flags .unequal
    else flags .equal) |||
  if x = 0 ∧ y = 0 then flags .bothZero else 0

def set (s : Reference) (r : Register) (x : UInt8) : Reference :=
  { s with registers := Function.update s.registers r x }

def advanced (s : Reference) : Reference := s.set .I (wrapped ((s.registers .I).toNat + 1))

/-- `x` in the stack cell at `S`, and `S` one up. -/
def pushed (s : Reference) (x : UInt8) : Reference :=
  { s with stack := Function.update s.stack (s.registers .S) x }.set .S
    (wrapped ((s.registers .S).toNat + 1))

/-- `S` one down, and then the stack cell at `S` in `dst`, which may be `S` itself. -/
def popped (s : Reference) (dst : Register) : Reference :=
  let top := wrapped ((s.registers .S).toNat + 255)
  (s.set .S top).set dst (s.stack top)

def push (wraps : Bool) (x : UInt8) (s : Reference) : Except FaultKind Reference :=
  if (s.registers .S).toNat + 1 < 256 ∨ wraps then .ok (s.pushed x) else .error .stackOverflow

def pop (wraps : Bool) (dst : Register) (s : Reference) : Except FaultKind Reference :=
  if 0 < (s.registers .S).toNat ∨ wraps then .ok (s.popped dst) else .error .stackUnderflow

def carryOut (flags : Flag → UInt8) (wraps : Bool) :
    Command → Reference → Except FaultKind Reference
  | .imm dst value, s => .ok (s.set dst value)
  | .add dst src, s =>
    .ok (s.set dst (wrapped ((s.registers dst).toNat + (s.registers src).toNat)))
  | .stk none none, s => .ok s
  | .stk none (some src), s => s.push wraps (s.registers src)
  | .stk (some dst) none, s => s.pop wraps dst
  | .stk (some dst) (some src), s => do
    let t ← s.push wraps (s.registers src)
    t.pop wraps dst
  | .stm address value, s =>
    .ok { s with memory := Function.update s.memory (s.registers address) (s.registers value) }
  | .ldm dst address, s => .ok (s.set dst (s.memory (s.registers address)))
  | .cmp left right, s =>
    .ok (s.set .F (compared flags (s.registers left) (s.registers right)))
  | .jmp condition target, s =>
    .ok (if s.registers .F &&& condition ≠ 0 then s.set .I (s.registers target) else s)

def step (flags : Flag → UInt8) (wraps : Bool) (c : Command) (s : Reference) :
    Except FaultKind Reference :=
  carryOut flags wraps c s.advanced

/-! ## Arithmetic -/

theorem wrapped_add (x y : UInt8) : wrapped (x.toNat + y.toNat) = x + y := by
  rw [← UInt8.toNat_inj, UInt8.toNat_add]
  simp [wrapped]

theorem wrapped_pred (x : UInt8) : wrapped (x.toNat + 255) = x - 1 := by
  have h := wrapped_add x 255
  have e : x + 255 = x - 1 := by rw [UInt8.sub_eq_add_neg]; rfl
  rw [← e]
  exact h

theorem compared_eq (b : Bindings) (x y : UInt8) :
    compared b.flags.get x y = comparisonFlags b x y := by
  unfold compared comparisonFlags
  simp only [UInt8.lt_iff_toNat_lt]
  by_cases hz : x = 0 ∧ y = 0
  · rw [if_pos hz, if_pos hz]
  · rw [if_neg hz, if_neg hz, UInt8.or_zero]

end Reference

/-! ## What a machine looks like to its reference -/

namespace Machine

variable {b : Bindings} {σ : Type} {H : Host σ} {m m' : Machine b σ}

/-- The registers and cells of a machine as maps. -/
def view (m : Machine b σ) : Reference where
  registers := m.registers.get
  memory a := m.memory.cell a.toNat
  stack a := m.stack.memory.cell a.toNat

/-- Both memories have a cell for every byte. -/
structure FullSize (m : Machine b σ) : Prop where
  memory : m.memory.size = addressSpaceSize
  stack : m.stack.memory.size = addressSpaceSize

theorem FullSize.byte_lt (h : m.FullSize) (a : UInt8) : a.toNat < m.memory.size :=
  h.memory ▸ a.toNat_lt

theorem get_set_eq_update (rf : RegisterFile b) (r : Register) (x : UInt8) :
    (rf.set r x).get = Function.update rf.get r x := by
  funext q
  rw [RegisterFile.get_set, Function.update_apply]

theorem cell_store_eq_update (mem : Memory) (h : mem.size = addressSpaceSize) (a x : UInt8) :
    (fun c : UInt8 => (mem.store a.toNat x).cell c.toNat) =
      Function.update (fun c : UInt8 => mem.cell c.toNat) a x := by
  have ha : a.toNat < mem.size := h ▸ a.toNat_lt
  funext c
  rw [Memory.cell_store mem ha, Function.update_apply]
  simp only [UInt8.toNat_inj]

theorem view_begun (m : Machine b σ) (i : Instruction) : (m.begun i).view = m.view.advanced := by
  have h : m.registers.get .I + 1 = Reference.wrapped ((m.registers.get .I).toNat + 1) :=
    (Reference.wrapped_add (m.registers.get .I) 1).symm
  unfold begun advance view Reference.advanced Reference.set
  simp only
  rw [← h, ← get_set_eq_update]
  rfl

theorem view_assign (m : Machine b σ) (r : Register) (x : UInt8) :
    (m.assign r x).view = m.view.set r x := by
  unfold assign view Reference.set
  simp only
  rw [get_set_eq_update]

theorem view_stored (h : m.FullSize) (a x : UInt8) :
    (m.stored a x).view = { m.view with memory := Function.update m.view.memory a x } := by
  unfold stored view
  simp only
  rw [cell_store_eq_update m.memory h.memory]

theorem view_loaded (m : Machine b σ) (r : Register) (a : UInt8) :
    (m.loaded r a).view = m.view.set r (m.view.memory a) := by
  unfold loaded view Reference.set
  simp only [Memory.cell_seen]
  rw [get_set_eq_update]

theorem view_pushed (h : m.FullSize) (x : UInt8) : (m.pushed x).view = m.view.pushed x := by
  have h1 : m.registers.get .S + 1 = Reference.wrapped ((m.registers.get .S).toNat + 1) :=
    (Reference.wrapped_add (m.registers.get .S) 1).symm
  unfold pushed view Reference.pushed Reference.set
  simp only
  rw [cell_store_eq_update m.stack.memory h.stack, get_set_eq_update, h1]

theorem view_popped (m : Machine b σ) (r : Register) : (m.popped r).view = m.view.popped r := by
  unfold popped view Reference.popped Reference.set
  simp only [Reference.wrapped_pred, Memory.cell_seen]
  rw [get_set_eq_update, get_set_eq_update]

/-! ## Refinement -/

/-- What a command has nothing to do with is as before. -/
structure Undisturbed (m m' : Machine b σ) : Prop where
  program : m'.program = m.program
  descriptors : m'.descriptors = m.descriptors
  host : m'.host = m.host
  exitCode : m'.exitCode = m.exitCode
  wraps : m'.stack.wraps = m.stack.wraps
  memory : m'.memory.size = m.memory.size
  stack : m'.stack.memory.size = m.stack.memory.size

/-- The instruction `i` does to `m` what its reference does with the given result. -/
def Refines (H : Host σ) (i : Instruction) (m : Machine b σ) : Except FaultKind Reference → Prop
  | .ok s => ∃ m', execute H i m = (.ok (), m') ∧ m'.view = s ∧ m.Undisturbed m'
  | .error k => ∃ f, execute H i m = (.error f, m) ∧ f.kind = k ∧ f.kind ≠ .halt

theorem Undisturbed.refl (m : Machine b σ) : m.Undisturbed m := ⟨rfl, rfl, rfl, rfl, rfl, rfl, rfl⟩

theorem Undisturbed.trans {m m' m'' : Machine b σ} (h : m.Undisturbed m')
    (h' : m'.Undisturbed m'') : m.Undisturbed m'' :=
  ⟨h'.program.trans h.program, h'.descriptors.trans h.descriptors, h'.host.trans h.host,
    h'.exitCode.trans h.exitCode, h'.wraps.trans h.wraps, h'.memory.trans h.memory,
    h'.stack.trans h.stack⟩

theorem undisturbed_assign (m : Machine b σ) (r : Register) (x : UInt8) :
    m.Undisturbed (m.assign r x) := ⟨rfl, rfl, rfl, rfl, rfl, rfl, rfl⟩

theorem undisturbed_loaded (m : Machine b σ) (r : Register) (a : UInt8) :
    m.Undisturbed (m.loaded r a) := ⟨rfl, rfl, rfl, rfl, rfl, rfl, rfl⟩

theorem undisturbed_stored (m : Machine b σ) (a x : UInt8) : m.Undisturbed (m.stored a x) :=
  ⟨rfl, rfl, rfl, rfl, rfl, m.memory.size_store a.toNat x, rfl⟩

theorem undisturbed_pushed (m : Machine b σ) (x : UInt8) : m.Undisturbed (m.pushed x) :=
  ⟨rfl, rfl, rfl, rfl, rfl, rfl, m.stack.memory.size_store _ x⟩

theorem undisturbed_popped (m : Machine b σ) (r : Register) : m.Undisturbed (m.popped r) :=
  ⟨rfl, rfl, rfl, rfl, rfl, rfl, rfl⟩

theorem full_iff : m.stack.Full m.registers ↔
    ¬ ((m.view.registers .S).toNat + 1 < 256 ∨ m.stack.wraps = true) := by
  have hlt := (m.registers.get .S).toNat_lt
  change m.registers.get .S = 0xFF ∧ _ ↔ ¬ ((m.registers.get .S).toNat + 1 < 256 ∨ _)
  rw [← UInt8.toNat_inj, not_or, Bool.not_eq_true]
  refine and_congr_left' ⟨fun h => ?_, fun h => ?_⟩
  · rw [h]
    decide
  · have e : UInt8.toNat 0xFF = 255 := rfl
    omega

theorem empty_iff : m.stack.Empty m.registers ↔
    ¬ (0 < (m.view.registers .S).toNat ∨ m.stack.wraps = true) := by
  change m.registers.get .S = 0 ∧ _ ↔ ¬ (0 < (m.registers.get .S).toNat ∨ _)
  rw [← UInt8.toNat_inj, not_or, Bool.not_eq_true]
  refine and_congr_left' ⟨fun h => ?_, fun h => ?_⟩
  · rw [h]
    decide
  · have e : UInt8.toNat 0 = 0 := rfl
    omega

theorem push_refines (h : m.FullSize) (r : Register) :
    Refines H (.stk none (some r)) m (m.view.push m.stack.wraps (m.view.registers r)) := by
  have he := execute_push (H := H) h.stack r
  unfold Reference.push
  by_cases hf : m.stack.Full m.registers
  · rw [if_pos hf] at he
    rw [if_neg (full_iff.1 hf)]
    exact ⟨_, he, rfl, by simp [Fault.kind]⟩
  · rw [if_neg hf] at he
    rw [if_pos (not_not.1 fun hn => hf (full_iff.2 hn))]
    exact ⟨_, he, view_pushed h _, undisturbed_pushed m _⟩

theorem pop_refines (h : m.FullSize) (r : Register) :
    Refines H (.stk (some r) none) m (m.view.pop m.stack.wraps r) := by
  have he := execute_pop (H := H) h.stack r
  unfold Reference.pop
  by_cases hf : m.stack.Empty m.registers
  · rw [if_pos hf] at he
    rw [if_neg (empty_iff.1 hf)]
    exact ⟨_, he, rfl, by simp [Fault.kind]⟩
  · rw [if_neg hf] at he
    rw [if_pos (not_not.1 fun hn => hf (empty_iff.2 hn))]
    exact ⟨_, he, view_popped m r, undisturbed_popped m r⟩

theorem move_refines (h : m.FullSize) (r q : Register) :
    Refines H (.stk (some r) (some q)) m
      (Reference.carryOut b.flags.get m.stack.wraps (.stk (some r) (some q)) m.view) := by
  have he := execute_move (H := H) h.stack r q
  simp only [Reference.carryOut, Reference.push]
  by_cases hf : m.stack.Full m.registers
  · rw [if_pos hf] at he
    rw [if_neg (full_iff.1 hf)]
    exact ⟨_, he, rfl, by simp [Fault.kind]⟩
  · rw [if_neg hf] at he
    rw [if_pos (not_not.1 fun hn => hf (full_iff.2 hn))]
    -- What has been pushed can be popped, so that the reference does not stop between the two.
    have hp : 0 < ((m.pushed (m.registers.get q)).view.registers .S).toNat ∨
        m.stack.wraps = true :=
      not_not.1 fun hn => not_empty_pushed hf (m.registers.get q) (empty_iff.2 hn)
    rw [view_pushed h] at hp
    change Refines H _ m (Reference.pop m.stack.wraps r (m.view.pushed (m.registers.get q)))
    unfold Reference.pop
    rw [if_pos hp]
    refine ⟨_, he, ?_, (undisturbed_pushed m _).trans (undisturbed_popped _ r)⟩
    rw [view_popped, view_pushed h]

theorem execute_refines (h : m.FullSize) (c : Command) :
    Refines H c.instruction m (Reference.carryOut b.flags.get m.stack.wraps c m.view) := by
  cases c with
  | imm r x => exact ⟨_, execute_imm r x, view_assign m r x, undisturbed_assign m r x⟩
  | add r q =>
    refine ⟨_, execute_add r q, ?_, undisturbed_assign m r _⟩
    rw [view_assign, ← Reference.wrapped_add]
    rfl
  | stk popTo pushFrom =>
    cases popTo with
    | none =>
      cases pushFrom with
      | none => exact ⟨m, execute_stay, rfl, .refl m⟩
      | some q => exact push_refines h q
    | some r =>
      cases pushFrom with
      | none => exact pop_refines h r
      | some q => exact move_refines h r q
  | stm a r =>
    have he := execute_stm (H := H) (m := m) a r
    rw [if_pos (h.byte_lt _)] at he
    exact ⟨_, he, view_stored h _ _, undisturbed_stored m _ _⟩
  | ldm r a =>
    have he := execute_ldm (H := H) (m := m) r a
    rw [if_pos (h.byte_lt _)] at he
    exact ⟨_, he, view_loaded m r _, undisturbed_loaded m r _⟩
  | cmp r q =>
    refine ⟨_, execute_cmp r q, ?_, undisturbed_assign m .F _⟩
    rw [view_assign, ← Reference.compared_eq]
    rfl
  | jmp condition r =>
    refine ⟨_, execute_jmp condition r, ?_, ?_⟩
    · by_cases hj : m.registers.get .F &&& condition ≠ 0
      · rw [if_pos hj, view_assign]
        exact (if_pos hj).symm
      · rw [if_neg hj]
        exact (if_neg hj).symm
    · by_cases hj : m.registers.get .F &&& condition ≠ 0
      · rw [if_pos hj]
        exact undisturbed_assign m .I _
      · rw [if_neg hj]
        exact .refl m

/-- The proper instructions that make no system call are the commands. -/
theorem exists_command {i : Instruction} (hp : i.IsProper) (hs : i.mnemonic? ≠ some .sys) :
    ∃ c : Command, c.instruction = i := by
  cases i with
  | imm dst value =>
    obtain ⟨r, rfl⟩ := Option.isSome_iff_exists.1 hp
    exact ⟨.imm r value, rfl⟩
  | add dst src =>
    obtain ⟨h1, h2⟩ := Bool.and_eq_true_iff.1 hp
    obtain ⟨r, rfl⟩ := Option.isSome_iff_exists.1 h1
    obtain ⟨q, rfl⟩ := Option.isSome_iff_exists.1 h2
    exact ⟨.add r q, rfl⟩
  | stk popTo pushFrom => exact ⟨.stk popTo pushFrom, rfl⟩
  | stm address value =>
    obtain ⟨h1, h2⟩ := Bool.and_eq_true_iff.1 hp
    obtain ⟨r, rfl⟩ := Option.isSome_iff_exists.1 h1
    obtain ⟨q, rfl⟩ := Option.isSome_iff_exists.1 h2
    exact ⟨.stm r q, rfl⟩
  | ldm dst address =>
    obtain ⟨h1, h2⟩ := Bool.and_eq_true_iff.1 hp
    obtain ⟨r, rfl⟩ := Option.isSome_iff_exists.1 h1
    obtain ⟨q, rfl⟩ := Option.isSome_iff_exists.1 h2
    exact ⟨.ldm r q, rfl⟩
  | cmp left right =>
    obtain ⟨h1, h2⟩ := Bool.and_eq_true_iff.1 hp
    obtain ⟨r, rfl⟩ := Option.isSome_iff_exists.1 h1
    obtain ⟨q, rfl⟩ := Option.isSome_iff_exists.1 h2
    exact ⟨.cmp r q, rfl⟩
  | jmp condition target =>
    obtain ⟨r, rfl⟩ := Option.isSome_iff_exists.1 hp
    exact ⟨.jmp condition r, rfl⟩
  | sys number result => exact absurd rfl hs
  | bare => cases hp

/-- **A step is a step of the reference.** Where `I` points at a proper instruction that makes no
system call, the reference machine tells what becomes of the registers and of both memories, and
with which kind of fault a strict stack refuses; a refused step has moved `I` on and no more. -/
theorem step_refines_reference (H : Host σ) (m : Machine b σ) (hx : m.exitCode = none)
    (hm : m.memory.size = addressSpaceSize) (hs : m.stack.memory.size = addressSpaceSize)
    (i : Instruction) (hi : m.program[(m.registers.get .I).toNat]? = some i) (hp : i.IsProper)
    (hn : i.mnemonic? ≠ some .sys) :
    ∃ c : Command, c.instruction = i ∧
      match Reference.step b.flags.get m.stack.wraps c m.view with
      | .ok s => ∃ snapshot m', step H m = (.ok snapshot, m') ∧ snapshot.exitCode = none ∧
          m'.view = s ∧ m.Undisturbed m'
      | .error k => ∃ f m', step H m = (.error f, m') ∧ f.kind = k ∧
          m'.view = m.view.advanced ∧ m.Undisturbed m' := by
  obtain ⟨c, rfl⟩ := exists_command hp hn
  refine ⟨c, rfl, ?_⟩
  have hf : m.fetch = .ok c.instruction := fetch_eq_ok_iff.2 hi
  have hb : m.Undisturbed (m.begun c.instruction) := ⟨rfl, rfl, rfl, rfl, rfl, rfl, rfl⟩
  have he := execute_refines (H := H) (m := m.begun c.instruction) ⟨hm, hs⟩ c
  rw [view_begun] at he
  change Refines H _ _ (Reference.step b.flags.get m.stack.wraps c m.view) at he
  cases hr : Reference.step b.flags.get m.stack.wraps c m.view with
  | ok s =>
    rw [hr] at he
    obtain ⟨m', he, hv, hu⟩ := he
    refine ⟨_, _, (Steps.done hx hf he).step_eq, rfl, hv, ?_⟩
    exact (hb.trans hu).trans ⟨rfl, rfl, rfl, rfl, rfl, rfl, rfl⟩
  | error k =>
    rw [hr] at he
    obtain ⟨f, he, hk, hh⟩ := he
    have hne : ∀ code, f ≠ .halt code := by
      rintro code rfl
      exact hh rfl
    exact ⟨f, _, (Steps.failed hx hf he hne).step_eq, hk, view_begun m c.instruction, hb⟩

/-- A machine about to push `I` and to pop into `S`. -/
def moving : Machine .standard Simulated :=
  .fresh .standard [.stk (some .S) (some .I)] (.ofSize .main addressSpaceSize) false .empty

theorem view_fresh (b : Bindings) (program : List Instruction) (n : Nat) (wraps : Bool) (host : σ) :
    (fresh b program (.ofSize .main n) wraps host).view = ⟨fun _ => 0, fun _ => 0, fun _ => 0⟩ := by
  simp [fresh, view, Stack.fresh, funext_iff]

/-- What is pushed is `I` moved on, and what is popped overrides `S`. -/
theorem step_moving :
    ∃ snapshot m', step Simulated.host moving = (.ok snapshot, m') ∧
      m'.view.registers .S = 1 ∧ m'.view.stack 0 = 1 := by
  have hI : moving.registers.get .I = 0 := RegisterFile.get_zero .I
  obtain ⟨c, hc, h⟩ := step_refines_reference Simulated.host moving rfl
    (Memory.size_ofSize .main _) (Memory.size_ofSize .stack _) (.stk (some .S) (some .I))
    (by rw [hI]; rfl) rfl (by decide)
  obtain rfl : c = .stk (some .S) (some .I) := by
    cases c <;> cases hc
    rfl
  have hz : moving.view = ⟨fun _ => 0, fun _ => 0, fun _ => 0⟩ := view_fresh ..
  rw [hz] at h
  obtain ⟨snapshot, m', hs, -, hv, -⟩ := h
  refine ⟨snapshot, m', hs, ?_, ?_⟩
  · rw [hv]
    decide
  · rw [hv]
    decide

end Machine

end Yan85
