import Yan85.Proofs.Machine.Evolution
import Yan85.Proofs.Machine.Reference

/-! # The ways in which a proper instruction fails

* `Fails H m i f m'`: the instruction `i`, carried out in the state `m`, fails with `f` and leaves
  `m'`. `execute_fails` says that a proper instruction fails in no other way.
* `callKinds`: the kinds of faults of system calls with bytes for arguments. `dispatchKinds`: those
  of all system calls, of which some ask the host to wait for what it refuses to wait for.
* `call_fits`: on an honest host the result of a system call is a byte.
-/

namespace Yan85.Machine
set_option autoImplicit false

variable {b : Bindings} {σ : Type} {H : Host σ} {m m' : Machine b σ}

/-! ## System calls -/

/-- The kinds of faults of system calls with bytes for arguments. -/
def callKinds : List FaultKind :=
  [.outOfBounds, .unsupportedSyscall, .descriptorOverflow, .hostIo, .system, .decode, .type, .halt]

/-- The kinds of faults of all system calls. -/
def dispatchKinds : List FaultKind := .value :: .overflow :: callKinds

theorem Calls.kind_cases {x y z : Int} {s : Syscall} {f : Fault}
    (h : Calls H m x y z s (.error f) m') :
    f.kind ∈ callKinds ∨ ∃ g, H.sleepRefusal x = some g ∧ f = .sleepRefused g := by
  cases h with
  | pathOutside hp =>
    rw [Memory.readString_error hp]
    simp [callKinds, Fault.kind]
  | readOutside _ _ hw =>
    rw [Memory.writeRange_error hw]
    simp [callKinds, Fault.kind]
  | writeOutside hr =>
    rw [Memory.readRange_error hr]
    simp [callKinds, Fault.kind]
  | codeUndecoded _ _ hd =>
    obtain hk | rfl := kind_of_decodeProgram hd
    · rw [hk]
      simp [callKinds]
    · simp [callKinds, Fault.kind]
  | sleepless hr => exact .inr ⟨_, hr, rfl⟩
  | _ => simp [callKinds, Fault.kind]

theorem Calls.kind_mem {x y z : Int} {s : Syscall} {f : Fault}
    (h : Calls H m x y z s (.error f) m') : f.kind ∈ dispatchKinds := by
  obtain hk | ⟨g, -, rfl⟩ := h.kind_cases
  · exact List.mem_cons_of_mem _ (List.mem_cons_of_mem _ hk)
  · obtain hk | hk := Fault.kind_sleepRefused g <;> simp [dispatchKinds, hk]

theorem blames_dispatch (H : Host σ) (code x y z : Int) :
    Blames dispatchKinds (dispatch H code x y z : Action (Machine b σ) Int) := by
  intro m f m' h
  obtain ⟨-, hf, -⟩ | ⟨s, -, hc⟩ := dispatch_cases h
  · cases hf
    simp [dispatchKinds, callKinds, Fault.kind]
  · exact hc.kind_mem

/-- An instruction passes bytes, and for a byte the host does wait. -/
theorem call_kind_mem {number : UInt8} {f : Fault} (h : call H number m = (.error f, m')) :
    f.kind ∈ callKinds := by
  obtain ⟨-, hf, -⟩ | ⟨s, -, hc⟩ := dispatch_cases h
  · cases hf
    simp [callKinds, Fault.kind]
  · obtain hk | ⟨g, hg, -⟩ := hc.kind_cases
    · exact hk
    · rw [H.sleepRefusal_byteValue] at hg
      cases hg

/-- On an honest host a system call that asks for a byte of data gives no more than a byte. -/
theorem Calls.fits (hH : H.Honest) {x y v : Int} {z : UInt8} {s : Syscall}
    (h : Calls H m x y (byteValue z) s (.ok v) m') : 0 ≤ v ∧ v ≤ 0xFF := by
  have hz := z.toNat_lt
  have hv : byteValue z = (z.toNat : Int) := rfl
  cases h with
  | opened _ _ hfd => omega
  | codeRead _ hr hd =>
    have h1 := hH.read_length _ _ _ _ _ hr
    have h2 := length_of_decodeProgram hd
    simp only [instructionSize] at h1 h2
    omega
  | read _ hr =>
    have h1 := hH.read_length _ _ _ _ _ hr
    omega
  | written hr hw =>
    have h1 := hH.write_count _ _ _ _ _ hw
    obtain ⟨i, k, -, hk, -, rfl, -⟩ := Memory.readRange_eq_ok_iff.1 hr
    rw [Memory.length_slice] at h1
    omega
  | slept => omega

theorem call_fits (hH : H.Honest) {number : UInt8} {v : Int}
    (h : call H number m = (.ok v, m')) : ∃ x, v = byteValue x := by
  obtain ⟨-, hv, -⟩ | ⟨s, -, hc⟩ := dispatch_cases h
  · cases hv
  · have hv := hc.fits hH
    have hn : byte? v ≠ none := by
      rw [ne_eq, byte?_eq_none_iff]
      omega
    obtain ⟨x, hx⟩ := Option.ne_none_iff_exists'.1 hn
    exact ⟨x, byte?_eq_some_iff.1 hx⟩

/-! ## Instructions -/

/-- The instruction `i` fails in the state `m` with `f` and leaves `m'`. -/
inductive Fails (H : Host σ) (m : Machine b σ) : Instruction → Fault → Machine b σ → Prop
  | outside {i : Instruction} {a : UInt8} (hi : i.mnemonic? = some .stm ∨ i.mnemonic? = some .ldm)
      (ha : m.memory.size ≤ a.toNat) :
      Fails H m i (.addressOutside (byteValue a) m.memory.extent) m
  | full {popTo : Operand} {q : Register} (hf : m.stack.Full m.registers) :
      Fails H m (.stk popTo (some q)) (.stackOverflow (m.registers.get .S)) m
  | empty {r : Register} (he : m.stack.Empty m.registers) :
      Fails H m (.stk (some r) none) .stackUnderflow m
  | refused {number : UInt8} {result : Operand} {f : Fault} {m' : Machine b σ}
      (hc : call H number m = (.error f, m')) : Fails H m (.sys number result) f m'
  | unfit {number : UInt8} {result : Operand} {v : Int} {m' : Machine b σ}
      (hc : call H number m = (.ok v, m')) (hv : ∀ x, v ≠ byteValue x) :
      Fails H m (.sys number result) (.notRegisterValue v) m'

theorem sys_fails {number : UInt8} {r : Register} {f : Fault}
    (h : execute H (.sys number (some r)) m = (.error f, m')) :
    Fails H m (.sys number (some r)) f m' := by
  obtain ⟨g, hc, hg⟩ | ⟨v, m1, hc, hw⟩ := execute_sys_cases h
  · cases hg
    exact .refused hc
  · obtain ⟨rfl, rfl, hv⟩ := writeOperand_error hw
    exact .unfit hc hv

theorem stk_fails (hs : m.stack.memory.size = addressSpaceSize) {popTo pushFrom : Operand}
    {f : Fault} (h : execute H (.stk popTo pushFrom) m = (.error f, m')) :
    Fails H m (.stk popTo pushFrom) f m' := by
  cases pushFrom with
  | none =>
    cases popTo with
    | none => cases h
    | some r =>
      rw [execute_pop hs] at h
      by_cases he : m.stack.Empty m.registers
      · rw [if_pos he] at h
        cases h
        exact .empty he
      · rw [if_neg he] at h
        cases h
  | some q =>
    by_cases hf : m.stack.Full m.registers
    · rw [execute_full hs hf] at h
      cases h
      exact .full hf
    · cases popTo with
      | none =>
        rw [execute_push hs, if_neg hf] at h
        cases h
      | some r =>
        rw [execute_move hs, if_neg hf] at h
        cases h

/-- A proper instruction fails in no other way. -/
theorem execute_fails (hs : m.stack.memory.size = addressSpaceSize) {i : Instruction}
    (hp : i.IsProper) {f : Fault} (h : execute H i m = (.error f, m')) : Fails H m i f m' := by
  by_cases hn : i.mnemonic? = some .sys
  · cases i with
    | sys number result =>
      obtain ⟨r, rfl⟩ := Option.isSome_iff_exists.1 hp
      exact sys_fails h
    | _ => cases hn
  · obtain ⟨c, rfl⟩ := exists_command hp hn
    cases c with
    | imm r x =>
      change execute H (.imm (some r) x) m = _ at h
      rw [execute_imm] at h
      cases h
    | add r q =>
      change execute H (.add (some r) (some q)) m = _ at h
      rw [execute_add] at h
      cases h
    | stk popTo pushFrom => exact stk_fails hs h
    | stm a r =>
      change execute H (.stm (some a) (some r)) m = _ at h
      rw [execute_stm] at h
      by_cases ha : (m.registers.get a).toNat < m.memory.size
      · rw [if_pos ha] at h
        cases h
      · rw [if_neg ha] at h
        cases h
        exact .outside (.inl rfl) (Nat.le_of_not_lt ha)
    | ldm r a =>
      change execute H (.ldm (some r) (some a)) m = _ at h
      rw [execute_ldm] at h
      by_cases ha : (m.registers.get a).toNat < m.memory.size
      · rw [if_pos ha] at h
        cases h
      · rw [if_neg ha] at h
        cases h
        exact .outside (.inr rfl) (Nat.le_of_not_lt ha)
    | cmp r q =>
      change execute H (.cmp (some r) (some q)) m = _ at h
      rw [execute_cmp] at h
      cases h
    | jmp condition r =>
      change execute H (.jmp condition (some r)) m = _ at h
      rw [execute_jmp] at h
      cases h

/-- No failure of a proper instruction looks like a failed fetch. -/
theorem Fails.kind_ne {i : Instruction} {f : Fault} (h : Fails H m i f m') :
    f.kind ≠ .counterOutside := by
  cases h with
  | refused hc =>
    intro hk
    have hm := call_kind_mem hc
    rw [hk] at hm
    exact absurd hm (by decide)
  | _ => simp [Fault.kind]

end Yan85.Machine
