import Yan85.Proofs.Codec.Decoding
import Yan85.Proofs.Machine.Actions
import Yan85.Proofs.Machine.Steps

/-! # What every instruction keeps

* `Evolves m m'`: both memories keep their sizes and record what they do, and what comes into the
  program is decoded. Every instruction keeps to this, with any operands and also when it fails.
* `Keeps m m'`: the same without the records, which a step empties. It holds from a machine to every
  state that it reaches.
* `Sound`: the spaces and the size of the stack with which machines are made.
-/

namespace Yan85.Machine
set_option autoImplicit false

variable {b : Bindings} {σ : Type} {H : Host σ} {m m' m'' : Machine b σ}

/-! ## Instructions -/

/-- What no instruction changes, and how the memories and the program change. -/
structure Evolves (m m' : Machine b σ) : Prop where
  memory : m.memory.Logged m'.memory
  stack : m.stack.memory.Logged m'.stack.memory
  wraps : m'.stack.wraps = m.stack.wraps
  program : ∀ i ∈ m'.program, i ∈ m.program ∨ i.IsProper

theorem Evolves.refl (m : Machine b σ) : m.Evolves m :=
  ⟨.refl _, .refl _, rfl, fun _ hi => .inl hi⟩

theorem Evolves.trans (h : m.Evolves m') (h' : m'.Evolves m'') : m.Evolves m'' := by
  refine ⟨h.memory.trans h'.memory, h.stack.trans h'.stack, h'.wraps.trans h.wraps, ?_⟩
  intro i hi
  obtain hi | hi := h'.program i hi
  · exact h.program i hi
  · exact .inr hi

theorem tolerant_evolves : Tolerant (Evolves : Machine b σ → Machine b σ → Prop) where
  refl := .refl
  trans := .trans
  registers := fun _ _ => ⟨.refl _, .refl _, rfl, fun _ hi => .inl hi⟩
  memory := fun _ _ h => ⟨h, .refl _, rfl, fun _ hi => .inl hi⟩
  stack := fun _ _ _ h => ⟨.refl _, h, rfl, fun _ hi => .inl hi⟩
  called := fun _ _ _ _ _ => ⟨.refl _, .refl _, rfl, fun _ hi => .inl hi⟩

theorem mem_spliceFrom {program code : List Instruction} {start : Int} {i : Instruction}
    (h : i ∈ spliceFrom program start code) : i ∈ program ∨ i ∈ code := by
  unfold spliceFrom at h
  obtain h | h := List.mem_append.1 h
  · obtain h | h := List.mem_append.1 h
    · exact .inl (List.mem_of_mem_take h)
    · exact .inr h
  · exact .inl (List.mem_of_mem_drop h)

theorem Calls.evolves {x y z : Int} {s : Syscall} {r : Except Fault Int}
    (h : Calls H m x y z s r m') : m.Evolves m' := by
  have hp : ∀ i ∈ m.program, i ∈ m.program ∨ i.IsProper := fun _ hi => .inl hi
  cases h with
  | pathOutside | codeMisplaced | transferOutside | writeOutside | sleepless | exited =>
    exact .refl m
  | codeRefused | codeUndecoded | codeTooLong | readRefused | readOutside | slept =>
    exact ⟨.refl _, .refl _, rfl, hp⟩
  | openRefused hs | openedTooHigh hs | openedStuck hs | opened hs =>
    exact ⟨Memory.logged_readString hs, .refl _, rfl, hp⟩
  | codeRead _ _ hd =>
    refine ⟨.refl _, .refl _, rfl, fun i hi => ?_⟩
    obtain hi | hi := mem_spliceFrom hi
    · exact .inl hi
    · exact .inr (proper_of_decodeProgram hd i hi)
  | read _ _ hw => exact ⟨Memory.logged_writeRange hw, .refl _, rfl, hp⟩
  | writeRefused hr | written hr => exact ⟨Memory.logged_readRange hr, .refl _, rfl, hp⟩

theorem execute_evolves {i : Instruction} {r : Except Fault Unit}
    (h : execute H i m = (r, m')) : m.Evolves m' :=
  tolerant_evolves.execute (fun _ _ _ _ _ _ _ hc => hc.evolves) h

/-! ## Steps -/

/-- What no step changes, and where the program of later states comes from. -/
structure Keeps (m m' : Machine b σ) : Prop where
  memorySpace : m'.memory.space = m.memory.space
  memorySize : m'.memory.size = m.memory.size
  stackSpace : m'.stack.memory.space = m.stack.memory.space
  stackSize : m'.stack.memory.size = m.stack.memory.size
  wraps : m'.stack.wraps = m.stack.wraps
  program : ∀ i ∈ m'.program, i ∈ m.program ∨ i.IsProper

theorem Keeps.refl (m : Machine b σ) : m.Keeps m :=
  ⟨rfl, rfl, rfl, rfl, rfl, fun _ hi => .inl hi⟩

theorem Keeps.trans (h : m.Keeps m') (h' : m'.Keeps m'') : m.Keeps m'' := by
  refine ⟨h'.memorySpace.trans h.memorySpace, h'.memorySize.trans h.memorySize,
    h'.stackSpace.trans h.stackSpace, h'.stackSize.trans h.stackSize, h'.wraps.trans h.wraps, ?_⟩
  intro i hi
  obtain hi | hi := h'.program i hi
  · exact h.program i hi
  · exact .inr hi

theorem Evolves.keeps (h : m.Evolves m') : m.Keeps m' :=
  ⟨h.memory.space, h.memory.size, h.stack.space, h.stack.size, h.wraps, h.program⟩

theorem keeps_begun (m : Machine b σ) (i : Instruction) : m.Keeps (m.begun i) :=
  ⟨rfl, rfl, rfl, rfl, rfl, fun _ hi => .inl hi⟩

theorem keeps_conclude (m : Machine b σ) (index : UInt8) (i : Instruction) (exit : Option Int) :
    m.Keeps (conclude index i exit m).2 :=
  ⟨rfl, rfl, rfl, rfl, rfl, fun _ hi => .inl hi⟩

theorem keeps_next (H : Host σ) (m : Machine b σ) : m.Keeps (next H m) := by
  refine next_of_steps fun r m' h => ?_
  cases h with
  | halted => exact .refl m
  | unfetched => exact ⟨rfl, rfl, rfl, rfl, rfl, fun _ hi => .inl hi⟩
  | done _ _ he =>
    exact ((keeps_begun m _).trans (execute_evolves he).keeps).trans (keeps_conclude ..)
  | exited _ _ he =>
    have hx := (keeps_begun m _).trans (execute_evolves he).keeps
    exact hx.trans ⟨rfl, rfl, rfl, rfl, rfl, fun _ hi => .inl hi⟩
  | failed _ _ he => exact (keeps_begun m _).trans (execute_evolves he).keeps

theorem keeps_after (H : Host σ) (n : Nat) (m : Machine b σ) : m.Keeps (after H n m) :=
  after_invariant (P := m.Keeps) (fun m' h => h.trans (keeps_next H m')) n (.refl m)

theorem Keeps.proper (h : m.Keeps m') (hp : ∀ i ∈ m.program, i.IsProper) :
    ∀ i ∈ m'.program, i.IsProper := by
  intro i hi
  obtain hi | hi := h.program i hi
  · exact hp i hi
  · exact hi

/-- The spaces and the size of the stack with which machines are made. -/
structure Sound (m : Machine b σ) : Prop where
  memorySpace : m.memory.space = .main
  stackSpace : m.stack.memory.space = .stack
  stackSize : m.stack.memory.size = addressSpaceSize

theorem sound_fresh (b : Bindings) (program : List Instruction) (n : Nat) (wraps : Bool)
    (host : σ) : (fresh b program (.ofSize .main n) wraps host).Sound :=
  ⟨rfl, rfl, Memory.size_ofSize .stack _⟩

theorem Keeps.sound (h : m.Keeps m') (hs : m.Sound) : m'.Sound :=
  ⟨h.memorySpace.trans hs.memorySpace, h.stackSpace.trans hs.stackSpace,
    h.stackSize.trans hs.stackSize⟩

end Yan85.Machine
