import Yan85.Bindings.Standard
import Yan85.Proofs.Codec.Decoding
import Yan85.Proofs.Host.Simulated
import Yan85.Proofs.Machine.Calls

/-! # Range checks come before requests to the host

* `OutOfRange m x y z s`: the address, the cells or the places that the system call `s` is about do
  not all lie where they have to.
* `perform_of_outOfRange`: such a call is refused before anything is asked of a host.
* `Calls.not_outOfBounds`: a call that is in range does not fail over its range later on. The data
  that an honest host gives may be short, but they are never too long.
* `perform_readMemory_of_read`, `perform_readCode_of_read`: what comes of a call once the host has
  given data.
* `unsupported_iff`, `outOfBounds_iff`, `dispatch_of_refused`: when the call of a code is refused in
  these ways, and that no host matters then.
* `range_checks_precede_host`: all of this for the call of a code.
-/

namespace Yan85
set_option autoImplicit false

namespace Machine

variable {b : Bindings} {σ : Type} {H : Host σ} {m m' : Machine b σ}
variable {code : Int} {x y z : Nat} {s : Syscall} {data : List UInt8} {t : σ}

/-! ## Ranges -/

/-- The address, the cells or the places that the system call `s` with the arguments `x`, `y` and
`z` is about do not all lie where they have to. -/
def OutOfRange (m : Machine b σ) (x y z : Nat) : Syscall → Prop
  | .openFile => m.memory.size ≤ x
  | .readCode => m.program.length < y ∨ addressSpaceSize < y + z
  | .readMemory | .write => m.memory.size < y + z
  | .sleep | .exit => False

/-- A call that is out of range is refused, the state is left alone, and the host does not matter. -/
theorem perform_of_outOfRange (h : OutOfRange m x y z s) :
    ∃ f : Fault, f.kind = .outOfBounds ∧ ∀ H : Host σ, perform H s x y z m = (.error f, m) := by
  cases s with
  | openFile =>
    have hp := Memory.readString_of_le h
    exact ⟨_, rfl, fun H => Action.bind_apply_error (onMemory_error hp)⟩
  | readCode =>
    have hp := checkPlacement_of_misplaced (misplaced_natCast_iff.2 h)
    exact ⟨_, rfl, fun H => Action.bind_apply_error hp⟩
  | readMemory =>
    have hs : (m.memory.size : Int) < (y : Int) + z := by
      have hlt : m.memory.size < y + z := h
      omega
    refine ⟨.transferOutside z y, rfl, fun H => ?_⟩
    change readMemory H x y z m = _
    rw [readMemory, Action.bind_apply_ok (Action.state_apply m), if_pos hs]
    rfl
  | write =>
    have hr := Memory.readRange_of_lt h
    exact ⟨_, rfl, fun H => Action.bind_apply_error (onMemory_error hr)⟩
  | sleep | exit => exact h.elim

/-- A call that is in range does not fail over its range later on. -/
theorem Calls.not_outOfBounds (hH : H.Honest) {f : Fault}
    (h : Calls H m x y z s (.error f) m') (hr : ¬ OutOfRange m x y z s) :
    f.kind ≠ .outOfBounds := by
  cases h with
  | pathOutside hp =>
    have hx : x < m.memory.size := Nat.lt_of_not_le hr
    rw [Memory.readString_eq_ok_iff.2 ⟨x, rfl, hx, rfl, rfl⟩] at hp
    cases hp
  | codeMisplaced hp => exact absurd (misplaced_natCast_iff.1 hp) hr
  | codeUndecoded _ _ hd =>
    obtain hk | rfl := kind_of_decodeProgram hd
    · rw [hk]
      decide
    · decide
  | codeTooLong _ hd hc hl =>
    -- There are at most as many instructions as were asked for.
    have h1 := hH.read_length _ _ _ _ _ hd
    have h2 := length_of_decodeProgram hc
    have h3 := misplaced_natCast_iff.1 hl
    have h4 : ¬ (m.program.length < y ∨ addressSpaceSize < y + z) := hr
    simp only [instructionSize] at h1 h2
    omega
  | transferOutside hs =>
    have hle : ¬ m.memory.size < y + z := hr
    omega
  | readOutside hs hd hw =>
    have h1 := hH.read_length _ _ _ _ _ hd
    rw [Memory.writeRange_eq_ok_iff.2 ⟨y, rfl, by omega, rfl⟩] at hw
    cases hw
  | writeOutside hw =>
    have hle : ¬ m.memory.size < y + z := hr
    rw [Memory.readRange_eq_ok_iff.2 ⟨y, z, rfl, rfl, by omega, rfl, rfl⟩] at hw
    cases hw
  | @sleepless g =>
    obtain hk | hk := Fault.kind_sleepRefused g <;> simp [hk]
  | _ => simp [Fault.kind]

theorem Calls.not_unsupported {x y z : Int} {f : Fault} (h : Calls H m x y z s (.error f) m') :
    f.kind ≠ .unsupportedSyscall := by
  cases h with
  | pathOutside hp =>
    rw [Memory.readString_error hp]
    simp [Fault.kind]
  | codeUndecoded _ _ hd =>
    obtain hk | rfl := kind_of_decodeProgram hd
    · rw [hk]
      decide
    · decide
  | readOutside _ _ hw =>
    rw [Memory.writeRange_error hw]
    simp [Fault.kind]
  | writeOutside hr =>
    rw [Memory.readRange_error hr]
    simp [Fault.kind]
  | @sleepless g =>
    obtain hk | hk := Fault.kind_sleepRefused g <;> simp [hk]
  | _ => simp [Fault.kind]

theorem kind_ne_of_perform (hH : H.Honest) (hr : ¬ OutOfRange m x y z s) {f : Fault}
    (hf : (perform H s x y z m).1 = .error f) : f.kind ≠ .outOfBounds := by
  have hc := perform_calls H m x y z s
  rw [hf] at hc
  exact hc.not_outOfBounds hH hr

/-! ## Once there are data -/

theorem perform_readMemory_of_read (hH : H.Honest) (hr : ¬ OutOfRange m x y z .readMemory)
    (hd : H.read x z m.host = (.ok data, t)) :
    (perform H .readMemory x y z m).1 = .ok data.length := by
  have hn : ∀ f, (perform H .readMemory x y z m).1 = .error f → f.kind ≠ .outOfBounds :=
    fun f => kind_ne_of_perform hH hr
  have hc := perform_calls H m x y z .readMemory
  cases hp : perform H .readMemory x y z m with
  | mk r m1 =>
    rw [hp] at hc hn
    simp only at hc hn ⊢
    cases hc with
    | transferOutside => exact absurd rfl (hn _ rfl)
    | readRefused _ hd' => cases hd.symm.trans hd'
    | readOutside _ _ hw =>
      rw [Memory.writeRange_error hw] at hn
      exact absurd rfl (hn _ rfl)
    | read _ hd' =>
      cases hd.symm.trans hd'
      rfl

theorem perform_readCode_of_read (hH : H.Honest) (hr : ¬ OutOfRange m x y z .readCode)
    (hd : H.read x (z * instructionSize : Nat) m.host = (.ok data, t)) :
    (perform H .readCode x y z m).1 =
      (decodeProgram b data).map fun p => (p.length : Int) := by
  have hn : ∀ f, (perform H .readCode x y z m).1 = .error f → f.kind ≠ .outOfBounds :=
    fun f => kind_ne_of_perform hH hr
  have hc := perform_calls H m x y z .readCode
  cases hp : perform H .readCode x y z m with
  | mk r m1 =>
    rw [hp] at hc hn
    simp only at hc hn ⊢
    cases hc with
    | codeMisplaced | codeTooLong => exact absurd rfl (hn _ rfl)
    | codeRefused _ hd' => cases hd.symm.trans hd'
    | codeUndecoded _ hd' hdec =>
      cases hd.symm.trans hd'
      rw [hdec]
      rfl
    | codeRead _ hd' hdec =>
      cases hd.symm.trans hd'
      rw [hdec]
      rfl

/-! ## The call of a code -/

theorem unsupported_iff (H : Host σ) (m : Machine b σ) (code x y z : Int) :
    (∃ f, (dispatch H code x y z m).1 = .error f ∧ f.kind = .unsupportedSyscall) ↔
      Syscall.ofCode? b code = none := by
  constructor
  · rintro ⟨f, hf, hk⟩
    cases hs : Syscall.ofCode? b code with
    | none => rfl
    | some s =>
      rw [dispatch_of_code hs H m x y z] at hf
      have hc := perform_calls H (m.tell (.called s x y z)) x y z s
      rw [hf] at hc
      exact absurd hk hc.not_unsupported
  · intro hs
    rw [dispatch_of_no_code hs H m x y z]
    exact ⟨_, rfl, rfl⟩

theorem outOfBounds_iff (hH : H.Honest) (m : Machine b σ) (code : Int) (x y z : Nat) :
    (∃ f, (dispatch H code x y z m).1 = .error f ∧ f.kind = .outOfBounds) ↔
      ∃ s, Syscall.ofCode? b code = some s ∧ OutOfRange m x y z s := by
  constructor
  · rintro ⟨f, hf, hk⟩
    cases hs : Syscall.ofCode? b code with
    | none =>
      rw [dispatch_of_no_code hs H m x y z] at hf
      cases hf
      cases hk
    | some s =>
      rw [dispatch_of_code hs H m x y z] at hf
      refine ⟨s, rfl, ?_⟩
      by_contra hr
      exact kind_ne_of_perform (m := m.tell (.called s x y z)) hH hr hf hk
  · rintro ⟨s, hs, hr⟩
    obtain ⟨f, hk, hp⟩ := perform_of_outOfRange (m := m.tell (.called s x y z)) hr
    rw [dispatch_of_code hs H m x y z, hp H]
    exact ⟨f, rfl, hk⟩

/-- A call that is refused as unsupported or as out of bounds is refused in the same way on every
host: none is asked for anything. -/
theorem dispatch_of_refused (hH : H.Honest) {f : Fault}
    (hf : (dispatch H code x y z m).1 = .error f)
    (hk : f.kind = .unsupportedSyscall ∨ f.kind = .outOfBounds) :
    (∀ H' : Host σ, dispatch H' code x y z m = dispatch H code x y z m) ∧
      (dispatch H code x y z m).2.host = m.host ∧
      (dispatch H code x y z m).2.descriptors = m.descriptors := by
  obtain hk | hk := hk
  · have hs := (unsupported_iff H m code x y z).1 ⟨f, hf, hk⟩
    have hd := fun H' : Host σ => dispatch_of_no_code hs H' m x y z
    rw [hd H]
    exact ⟨hd, rfl, rfl⟩
  · obtain ⟨s, hs, hr⟩ := (outOfBounds_iff hH m code x y z).1 ⟨f, hf, hk⟩
    obtain ⟨g, -, hp⟩ := perform_of_outOfRange (m := m.tell (.called s x y z)) hr
    have hd := fun H' : Host σ => (dispatch_of_code hs H' m x y z).trans (hp H')
    rw [hd H]
    exact ⟨hd, rfl, rfl⟩

/-- **Range checks come before requests to the host, and suffice.** A call is refused as unsupported
just when no system call has its code, and as out of bounds just when its range lies outside. Such a
refusal is the same on every host of this kind, so that none is asked for anything, and leaves the
host and the descriptors as they were. Once the host has given data, the reading of memory succeeds
with their number, and the reading of code succeeds with the number of instructions, or fails with
the fault of their decoding. That fault is one of decoding unless the layout has a place that selects
no byte and the data are whole groups of bytes, at least one. -/
theorem range_checks_precede_host (H : Host σ) (hH : H.Honest) (m : Machine b σ) (code : Int)
    (x y z : Nat) :
    ((∃ f, (dispatch H code x y z m).1 = .error f ∧ f.kind = .unsupportedSyscall) ↔
      Syscall.ofCode? b code = none) ∧
    ((∃ f, (dispatch H code x y z m).1 = .error f ∧ f.kind = .outOfBounds) ↔
      ∃ s, Syscall.ofCode? b code = some s ∧ OutOfRange m x y z s) ∧
    (∀ f, (dispatch H code x y z m).1 = .error f →
      f.kind = .unsupportedSyscall ∨ f.kind = .outOfBounds →
      (∀ H' : Host σ, dispatch H' code x y z m = dispatch H code x y z m) ∧
        (dispatch H code x y z m).2.host = m.host ∧
        (dispatch H code x y z m).2.descriptors = m.descriptors) ∧
    (Syscall.ofCode? b code = some .readMemory → ¬ OutOfRange m x y z .readMemory →
      ∀ data t, H.read x z m.host = (.ok data, t) →
        (dispatch H code x y z m).1 = .ok data.length) ∧
    (Syscall.ofCode? b code = some .readCode → ¬ OutOfRange m x y z .readCode →
      ∀ data t, H.read x (z * instructionSize : Nat) m.host = (.ok data, t) →
        (dispatch H code x y z m).1 =
            (decodeProgram b data).map (fun p => (p.length : Int)) ∧
          ((∃ f, (dispatch H code x y z m).1 = .error f ∧ f.kind ≠ .decode) ↔
            b.layout.isWhole = false ∧ data ≠ [] ∧ data.length % instructionSize = 0)) := by
  refine ⟨unsupported_iff H m code x y z, outOfBounds_iff hH m code x y z,
    fun f hf hk => dispatch_of_refused hH hf hk, fun hs hr data t hd => ?_,
    fun hs hr data t hd => ?_⟩
  · rw [dispatch_of_code hs H m x y z]
    exact perform_readMemory_of_read (m := m.tell (.called .readMemory x y z)) hH hr hd
  · have hp := perform_readCode_of_read (m := m.tell (.called .readCode x y z)) hH hr hd
    rw [dispatch_of_code hs H m x y z]
    refine ⟨hp, ?_⟩
    rw [hp, ← decodeProgram_fails_otherwise_iff]
    constructor
    · rintro ⟨f, hf, hk⟩
      exact ⟨f, map_eq_error_iff.1 hf, hk⟩
    · rintro ⟨f, hf, hk⟩
      exact ⟨f, map_eq_error_iff.2 hf, hk⟩

/-- Sixteen cells, no program, and a stream of four bytes. -/
def supplied (b : Bindings) : Machine b Simulated :=
  fresh b [] (.ofSize .main 16) false
    { Simulated.empty with
      streams := Simulated.empty.streams.insert 5 ⟨[2, 0x20, 0x20, 9], none, none, none, none⟩ }

/-- Two bytes do not fit from the last cell on and are not asked for; they fit from the cell before.
From the place zero on there is room for an instruction, which is read. -/
theorem supplied_reads :
    (∃ f, (dispatch Simulated.host 0x10 5 15 2 (supplied .standard)).1 = .error f ∧
      f.kind = .outOfBounds ∧
      (dispatch Simulated.host 0x10 5 15 2 (supplied .standard)).2.host =
        (supplied .standard).host) ∧
    (dispatch Simulated.host 0x10 5 14 2 (supplied .standard)).1 = .ok 2 ∧
    (dispatch Simulated.host 0x01 5 0 1 (supplied .standard)).1 = .ok 1 := by
  have hread : ∀ n : Nat, Simulated.host.read 5 n (supplied .standard).host =
      (.ok ([2, 0x20, 0x20, 9].take n), (Simulated.host.read 5 n (supplied .standard).host).2) :=
    fun n => rfl
  obtain ⟨-, hout, hleft, -, -⟩ :=
    range_checks_precede_host Simulated.host Simulated.honest (supplied .standard) 0x10 5 15 2
  obtain ⟨-, -, -, hmem, -⟩ :=
    range_checks_precede_host Simulated.host Simulated.honest (supplied .standard) 0x10 5 14 2
  obtain ⟨-, -, -, -, hcode⟩ :=
    range_checks_precede_host Simulated.host Simulated.honest (supplied .standard) 0x01 5 0 1
  have hs : (supplied .standard).memory.size = 16 := Memory.size_ofSize .main 16
  refine ⟨?_, ?_, ?_⟩
  · have hr : OutOfRange (supplied .standard) 5 15 2 .readMemory := by
      unfold OutOfRange
      omega
    obtain ⟨f, hf, hk⟩ := hout.2 ⟨.readMemory, by decide, hr⟩
    exact ⟨f, hf, hk, (hleft f hf (.inr hk)).2.1⟩
  · have hr : ¬ OutOfRange (supplied .standard) 5 14 2 .readMemory := by
      unfold OutOfRange
      omega
    exact hmem (by decide) hr _ _ (hread 2)
  · have hr : ¬ OutOfRange (supplied .standard) 5 0 1 .readCode := by
      unfold OutOfRange addressSpaceSize
      omega
    exact (hcode (by decide) hr _ _ (hread 3)).1

/-- The standard encoding with the place of the operation written as a float. -/
def floatingPlace : Bindings :=
  { Bindings.standard with
    layout := ⟨⟨⟨[(.op, .float (.zero false)), (.first, .int 1), (.second, .int 2)], by decide⟩, by
      intro a
      cases a <;> decide⟩, by decide +kernel⟩ }

/-- Where a place selects no byte, the host gives the three bytes that it is asked for, and then
they are refused with a fault that is none of decoding. -/
theorem floatingPlace_consumes :
    ∃ f t, Simulated.host.read 5 3 (supplied floatingPlace).host = (.ok [2, 0x20, 0x20], t) ∧
      (t.streams.find? 5).map Stream.rest = some [9] ∧
      (dispatch Simulated.host 0x01 5 0 1 (supplied floatingPlace)).1 = .error f ∧
      f.kind ≠ .outOfBounds ∧ f.kind ≠ .decode := by
  have hs : Syscall.ofCode? floatingPlace 0x01 = some .readCode := by decide
  have hr : ¬ OutOfRange (supplied floatingPlace) 5 0 1 .readCode := by
    unfold OutOfRange addressSpaceSize
    omega
  have hread : Simulated.host.read 5 (1 * instructionSize : Nat) (supplied floatingPlace).host =
      (.ok [2, 0x20, 0x20], _) := rfl
  have hp := perform_readCode_of_read
    (m := (supplied floatingPlace).tell (.called .readCode 5 0 1)) Simulated.honest hr hread
  refine ⟨.fractionalPlace, _, hread, rfl, ?_, by decide, by decide⟩
  have hd := congrArg Prod.fst (dispatch_of_code hs Simulated.host (supplied floatingPlace) 5 0 1)
  exact hd.trans hp

end Machine

end Yan85
