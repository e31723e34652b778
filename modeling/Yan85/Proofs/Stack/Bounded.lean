import Yan85.Proofs.Machine.Effects

/-! # A strict stack is a list of at most 255 bytes

* `Call`: a push or a pop. `Call.perform` carries it out on a stack and the registers.
* `inTurn`: calls one after the other, going on after a failed one.
* `BoundedList.perform`: the same calls on a list, which has room for 255 bytes.
* `Represents s l`: `S` is the length of the list `l`, and the cells below `S` are its bytes.
* `represents_perform`: what one call does to a stack that represents a list.
* `strict_stack_is_bounded_list`: what any number of calls do to a fresh one.
-/

namespace Yan85.Stack
set_option autoImplicit false

variable {b : Bindings}

/-! ## Calls -/

/-- A use of a stack. -/
inductive Call
  | push (x : UInt8)
  | pop
  deriving DecidableEq, Repr

/-- Carries out a call; only a pop gives a byte. -/
def Call.perform : Call → Action (Stack × RegisterFile b) (Option UInt8)
  | .push x => do
    Stack.push (byteValue x)
    return none
  | .pop => do
    let x ← Stack.pop
    return some x

/-- The results of calls one after the other, and the state that they leave. -/
def inTurn {S R : Type} (f : Call → S → R × S) : List Call → S → List R × S
  | [], s => ([], s)
  | c :: cs, s =>
    let (r, s') := f c s
    let (rs, s'') := inTurn f cs s'
    (r :: rs, s'')

theorem perform_push {st : Stack} (hs : st.memory.size = addressSpaceSize) (rf : RegisterFile b)
    (x : UInt8) :
    (Call.push x).perform (st, rf) =
      if st.Full rf then (.error (.stackOverflow (rf.get .S)), st, rf)
      else (.ok none, { st with memory := st.memory.store (rf.get .S).toNat x },
        rf.set .S (rf.get .S + 1)) := by
  have h := push_byte hs rf x
  by_cases hf : st.Full rf
  · rw [if_pos hf] at h ⊢
    exact Action.bind_apply_error h
  · rw [if_neg hf] at h ⊢
    exact Action.bind_apply_ok h

theorem perform_pop {st : Stack} (hs : st.memory.size = addressSpaceSize) (rf : RegisterFile b) :
    Call.pop.perform (st, rf) =
      if st.Empty rf then (.error .stackUnderflow, st, rf)
      else (.ok (some (st.memory.cell (rf.get .S - 1).toNat)),
        { st with memory := st.memory.seen (rf.get .S - 1).toNat },
        rf.set .S (rf.get .S - 1)) := by
  have h := pop_byte hs rf
  by_cases he : st.Empty rf
  · rw [if_pos he] at h ⊢
    exact Action.bind_apply_error h
  · rw [if_neg he] at h ⊢
    exact Action.bind_apply_ok h

/-! ## The list -/

namespace BoundedList

/-- The most bytes that the list holds. -/
def capacity : Nat := 255

/-- A call on the list, whose last byte is the top. -/
def perform : Call → List UInt8 → Except FaultKind (Option UInt8) × List UInt8
  | .push x, l =>
    if l.length = capacity then (.error .stackOverflow, l) else (.ok none, l ++ [x])
  | .pop, l =>
    match l.getLast? with
    | none => (.error .stackUnderflow, l)
    | some x => (.ok (some x), l.dropLast)

theorem perform_pop_concat (l : List UInt8) (x : UInt8) :
    perform .pop (l ++ [x]) = (.ok (some x), l) := by
  simp [perform]

end BoundedList

/-! ## A stack that represents a list -/

/-- A strict stack with the bytes of the list `l` below `S`. What is above `S` does not matter. -/
structure Represents (s : Stack × RegisterFile b) (l : List UInt8) : Prop where
  strict : s.1.wraps = false
  size : s.1.memory.size = addressSpaceSize
  pointer : (s.2.get .S).toNat = l.length
  cells : ∀ i < l.length, s.1.memory.cells[i]? = l[i]?

variable {s : Stack × RegisterFile b} {l : List UInt8}

theorem represents_fresh (b : Bindings) : Represents (fresh false, RegisterFile.zero b) [] where
  strict := rfl
  size := Memory.size_ofSize .stack _
  pointer := by simp
  cells := fun i hi => absurd hi (Nat.not_lt_zero i)

/-- `S` is a byte, so the list never has more than 255. -/
theorem Represents.length_lt (h : Represents s l) : l.length < 256 := by
  have hlt := (s.2.get .S).toNat_lt
  rw [h.pointer] at hlt
  exact hlt

theorem Represents.full_iff (h : Represents s l) :
    s.1.Full s.2 ↔ l.length = BoundedList.capacity := by
  constructor
  · rintro ⟨hS, -⟩
    have hp := h.pointer
    rw [hS] at hp
    exact hp.symm
  · intro hl
    refine ⟨?_, h.strict⟩
    apply UInt8.toNat_inj.1
    rw [h.pointer, hl]
    rfl

theorem Represents.empty_iff (h : Represents s l) : s.1.Empty s.2 ↔ l = [] := by
  constructor
  · rintro ⟨hS, -⟩
    have hp := h.pointer
    rw [hS] at hp
    exact List.length_eq_zero_iff.1 hp.symm
  · rintro rfl
    refine ⟨?_, h.strict⟩
    apply UInt8.toNat_inj.1
    exact h.pointer

theorem Represents.pushed (h : Represents s l) (hl : l.length ≠ BoundedList.capacity) (x : UInt8) :
    Represents ({ s.1 with memory := s.1.memory.store (s.2.get .S).toNat x },
      s.2.set .S (s.2.get .S + 1)) (l ++ [x]) := by
  have hlt := h.length_lt
  have hroom : l.length < s.1.memory.size := by
    rw [h.size]
    exact hlt
  refine ⟨h.strict, (Memory.size_store ..).trans h.size, ?_, fun i hi => ?_⟩
  · have hcap : BoundedList.capacity = 255 := rfl
    rw [RegisterFile.get_set_self, UInt8.toNat_add, h.pointer, List.length_append]
    simp only [UInt8.toNat_one, List.length_singleton]
    omega
  · rw [List.length_append, List.length_singleton] at hi
    have hcell := Memory.cell_store s.1.memory hroom i x
    have hget := (s.1.memory.store l.length x).getElem?_cells (i := i) (by
      rw [Memory.size_store]
      omega)
    -- The byte that is pushed stands where `S` pointed; the cells below are as before.
    rw [h.pointer, hget, hcell]
    by_cases hil : i = l.length
    · rw [if_pos hil, hil, List.getElem?_concat_length]
    · have hi' : i < l.length := by omega
      rw [if_neg hil, List.getElem?_append_left hi', ← h.cells i hi',
        s.1.memory.getElem?_cells (by omega)]

theorem Represents.popped {x : UInt8} (h : Represents s (l ++ [x])) :
    s.1.memory.cell (s.2.get .S - 1).toNat = x ∧
      Represents ({ s.1 with memory := s.1.memory.seen (s.2.get .S - 1).toNat },
        s.2.set .S (s.2.get .S - 1)) l := by
  have hlt := h.length_lt
  have hp := h.pointer
  have hlen : (l ++ [x]).length = l.length + 1 := by simp
  have htop : (s.2.get .S - 1).toNat = l.length := by
    rw [UInt8.toNat_sub, hp, hlen]
    simp only [UInt8.toNat_one]
    omega
  refine ⟨?_, h.strict, h.size, ?_, fun i hi => ?_⟩
  · have hc := h.cells l.length (by omega)
    have hin : l.length < s.1.memory.size := by
      rw [h.size]
      unfold addressSpaceSize
      omega
    rw [List.getElem?_concat_length, s.1.memory.getElem?_cells hin] at hc
    rw [htop]
    exact Option.some.inj hc
  · rw [RegisterFile.get_set_self, htop]
  · -- The cell of the byte still holds it, but it is no longer below `S`.
    have hc := h.cells i (by omega)
    rw [List.getElem?_append_left hi] at hc
    exact hc

/-- One call: the stack answers as the list does and represents what the list becomes. A call that
fails changes nothing at all. -/
theorem represents_perform (h : Represents s l) (c : Call) :
    (c.perform s).1.mapError Fault.kind = (BoundedList.perform c l).1 ∧
      Represents (c.perform s).2 (BoundedList.perform c l).2 ∧
      ∀ f, (c.perform s).1 = .error f → (c.perform s).2 = s := by
  cases c with
  | push x =>
    have hs := perform_push h.size s.2 x
    by_cases hl : l.length = BoundedList.capacity
    · rw [if_pos (h.full_iff.2 hl)] at hs
      rw [hs, BoundedList.perform, if_pos hl]
      exact ⟨rfl, h, fun _ _ => rfl⟩
    · rw [if_neg (mt h.full_iff.1 hl)] at hs
      rw [hs, BoundedList.perform, if_neg hl]
      exact ⟨rfl, h.pushed hl x, fun f hf => by cases hf⟩
  | pop =>
    have hs := perform_pop h.size s.2
    by_cases hl : l = []
    · rw [if_pos (h.empty_iff.2 hl)] at hs
      subst hl
      rw [hs]
      exact ⟨rfl, h, fun _ _ => rfl⟩
    · rw [if_neg (mt h.empty_iff.1 hl)] at hs
      obtain ⟨l', x, rfl⟩ : ∃ l' x, l = l' ++ [x] :=
        ⟨_, _, (List.dropLast_concat_getLast hl).symm⟩
      obtain ⟨hx, hr⟩ := h.popped
      rw [hs, BoundedList.perform_pop_concat, hx]
      exact ⟨rfl, hr, fun f hf => by cases hf⟩

theorem represents_inTurn (calls : List Call) (h : Represents s l) :
    (inTurn Call.perform calls s).1.map (·.mapError Fault.kind) =
        (inTurn BoundedList.perform calls l).1 ∧
      Represents (inTurn Call.perform calls s).2 (inTurn BoundedList.perform calls l).2 := by
  induction calls generalizing s l with
  | nil => exact ⟨rfl, h⟩
  | cons c calls ih =>
    obtain ⟨hr, hs, -⟩ := represents_perform h c
    obtain ⟨hrs, hss⟩ := ih hs
    refine ⟨?_, hss⟩
    simp only [inTurn, List.map_cons]
    rw [hr, hrs]

/-- **A strict stack is a list of at most 255 bytes.** Whatever is pushed and popped on a fresh
strict stack with fresh registers, it answers as the list does: it refuses a push just when the list
has 255 bytes and a pop just when the list is empty, and a pop gives the last byte of the list. After
all calls `S` is the length of the list and the cells below `S` are its bytes. A call that fails
leaves the registers, the cells and the record of accesses as they were. -/
theorem strict_stack_is_bounded_list (b : Bindings) (calls : List Call) :
    (inTurn Call.perform calls (fresh false, RegisterFile.zero b)).1.map (·.mapError Fault.kind) =
        (inTurn BoundedList.perform calls []).1 ∧
      Represents (inTurn Call.perform calls (fresh false, RegisterFile.zero b)).2
        (inTurn BoundedList.perform calls []).2 ∧
      ∀ (c : Call) f s', c.perform (inTurn Call.perform calls (fresh false, RegisterFile.zero b)).2 =
        (.error f, s') → s' = (inTurn Call.perform calls (fresh false, RegisterFile.zero b)).2 := by
  obtain ⟨hr, hs⟩ := represents_inTurn calls (represents_fresh b)
  refine ⟨hr, hs, fun c f s' hc => ?_⟩
  obtain ⟨-, -, hf⟩ := represents_perform hs c
  have hsame := hf f (congrArg Prod.fst hc)
  rw [hc] at hsame
  exact hsame

end Yan85.Stack
