import Yan85.Bindings.Standard
import Yan85.Host.Simulated
import Yan85.Proofs.Bindings.Lookups
import Yan85.Proofs.Machine.Faults
import Yan85.Proofs.Memory.Windows

/-! # How refusals of the host come out of a step

* `Expected f`: the fault is a failure of the machine, or the halt that follows an exit.
* `Asks m s`: the next step of `m` makes the system call `s`.
* `Refuses`, `Grants`, `Sticks`: what the host makes of a call: it refuses the transfer or the file,
  gives a descriptor, or gives one that is no byte and does not take it back.
* `Refused H m e`: this call asks the host for a transfer or a file, and the host refuses with `e`.
* `Obtains H m fd t`: this call opens a file, and the host gives the descriptor `fd`.
* `Strands H m e`: the descriptor is no byte, and the host refuses with `e` to take it back.
* `step_error_cases`: a step fails as expected unless it strands a descriptor.
* `faults_expected_iff`: the same of every reachable state, with what becomes of each refusal.
-/

namespace Yan85
set_option autoImplicit false

/-- A failure of the machine, or the halt that follows an exit. -/
def Fault.Expected (f : Fault) : Prop := f.kind.isMachineFailure = true ∨ f.kind = .halt

namespace Machine

variable {b : Bindings} {σ : Type} {H : Host σ} {m m' : Machine b σ}

/-! ## Requests and refusals -/

/-- The path that stands in memory at the address `x`. -/
def path (m : Machine b σ) (x : UInt8) : List UInt8 :=
  (m.memory.cells.toList.drop x.toNat).takeWhile fun c => c != 0

/-- The system call with the arguments `x`, `y` and `z`, made in the state `m`, passes its own
checks and asks the host, which refuses with `e`. -/
inductive Refuses (H : Host σ) (m : Machine b σ) (x y z : UInt8) : Syscall → HostFailure → Prop
  | openFile {e : HostFailure} {t : σ} (hx : x.toNat < m.memory.size)
      (ho : H.openFile (m.path x) m.host = (.error e, t)) : Refuses H m x y z .openFile e
  | readCode {e : HostFailure} {t : σ} (hy : y.toNat ≤ m.program.length)
      (hz : y.toNat + z.toNat ≤ addressSpaceSize)
      (hr : H.read (byteValue x) (byteValue z * instructionSize) m.host = (.error e, t)) :
      Refuses H m x y z .readCode e
  | readMemory {e : HostFailure} {t : σ} (hz : y.toNat + z.toNat ≤ m.memory.size)
      (hr : H.read (byteValue x) (byteValue z) m.host = (.error e, t)) :
      Refuses H m x y z .readMemory e
  | write {e : HostFailure} {t : σ} (hz : y.toNat + z.toNat ≤ m.memory.size)
      (hw : H.write (byteValue x) ((m.memory.cells.toList.drop y.toNat).take z.toNat) m.host =
        (.error e, t)) :
      Refuses H m x y z .write e

/-- The next step makes the system call `s`. -/
structure Asks (m : Machine b σ) (s : Syscall) : Prop where
  running : m.exitCode = none
  fetched : ∃ result, m.fetch = .ok (.sys (b.syscalls.get s) result)

/-- The next step makes a system call that the host refuses with `e`. -/
def Refused (H : Host σ) (m : Machine b σ) (e : HostFailure) : Prop :=
  ∃ s, m.Asks s ∧
    Refuses H m (m.registers.get .A) (m.registers.get .B) (m.registers.get .C) s e

/-- The path at `x` lies in memory; the host opens it under `fd` and goes over to `t`. -/
structure Grants (H : Host σ) (m : Machine b σ) (x : UInt8) (fd : Nat) (t : σ) : Prop where
  inside : x.toNat < m.memory.size
  opens : H.openFile (m.path x) m.host = (.ok fd, t)

/-- The path at `x` is opened under a descriptor that is no byte, and the host refuses with `e` to
take the descriptor back. -/
def Sticks (H : Host σ) (m : Machine b σ) (x : UInt8) (e : HostFailure) : Prop :=
  ∃ fd t t', Grants H m x fd t ∧ 0xFF < fd ∧ H.close fd t = (.error e, t')

/-- The next step opens a file, for which the host gives the descriptor `fd` and comes to `t`. -/
structure Obtains (H : Host σ) (m : Machine b σ) (fd : Nat) (t : σ) : Prop where
  asks : m.Asks .openFile
  grants : Grants H m (m.registers.get .A) fd t

/-- The next step opens a file under a descriptor that is no byte, and the host refuses with `e` to
take the descriptor back. -/
def Strands (H : Host σ) (m : Machine b σ) (e : HostFailure) : Prop :=
  m.Asks .openFile ∧ Sticks H m (m.registers.get .A) e

/-! ## What a call makes of the answer of the host -/

variable {x y z : UInt8} {s : Syscall} {e : HostFailure} {f : Fault}

theorem exists_readString (hx : x.toNat < m.memory.size) :
    ∃ mem, m.memory.readString (byteValue x) = .ok (m.path x, mem) := by
  have hp := Memory.string_eq_takeWhile (Nat.le_of_lt hx)
  exact ⟨_, Memory.readString_eq_ok_iff.2 ⟨x.toNat, rfl, hx, hp.symm, rfl⟩⟩

theorem not_misplaced (hy : y.toNat ≤ m.program.length)
    (hz : y.toNat + z.toNat ≤ addressSpaceSize) :
    ¬ m.Misplaced (byteValue y) (byteValue z) := by
  have hy' : byteValue y = (y.toNat : Int) := rfl
  have hz' : byteValue z = (z.toNat : Int) := rfl
  unfold Misplaced
  omega

theorem readRange_window (hz : y.toNat + z.toNat ≤ m.memory.size) :
    ∃ mem, m.memory.readRange (byteValue y) (byteValue z) =
      .ok ((m.memory.cells.toList.drop y.toNat).take z.toNat, mem) := by
  have hs := Memory.slice_eq_take hz
  exact ⟨_, Memory.readRange_eq_ok_iff.2 ⟨y.toNat, z.toNat, rfl, rfl, hz, hs.symm, rfl⟩⟩

theorem Refuses.perform (h : Refuses H m x y z s e) :
    ∃ f, (Machine.perform H s (byteValue x) (byteValue y) (byteValue z) m).1 = .error f ∧
      f.kind = .hostIo ∧ f.hostNumber? = some e.number := by
  cases h with
  | openFile hx ho =>
    obtain ⟨mem, hp⟩ := exists_readString hx
    refine ⟨.openFailed (m.path x) e, ?_, rfl, rfl⟩
    unfold Machine.perform Machine.openFile
    simp only
    rw [Action.bind_apply_ok (onMemory_ok hp),
      Action.bind_apply_error (onHost_error { m with memory := mem } ho)]
  | readCode hy hz hr =>
    refine ⟨.readFailed (byteValue x) e, ?_, rfl, rfl⟩
    unfold Machine.perform Machine.readCode readHost
    simp only
    rw [Action.bind_apply_ok (checkPlacement_of_not_misplaced (not_misplaced hy hz)),
      Action.bind_apply_error (onHost_error m hr)]
  | readMemory hz hr =>
    have hs : ¬ (m.memory.size : Int) < byteValue y + byteValue z := by
      have hy' : byteValue y = (y.toNat : Int) := rfl
      have hz' : byteValue z = (z.toNat : Int) := rfl
      omega
    refine ⟨.readFailed (byteValue x) e, ?_, rfl, rfl⟩
    unfold Machine.perform Machine.readMemory readHost
    simp only
    rw [Action.bind_apply_ok (Action.state_apply m), if_neg hs,
      Action.bind_apply_error (onHost_error m hr)]
  | write hz hw =>
    obtain ⟨mem, hr⟩ := readRange_window hz
    refine ⟨.writeFailed (byteValue x) e, ?_, rfl, rfl⟩
    unfold Machine.perform writeHost
    simp only
    rw [Action.bind_apply_ok (onMemory_ok hr),
      Action.bind_apply_error (onHost_error { m with memory := mem } hw)]

theorem Grants.perform_tooHigh {fd : Nat} {t : σ} (h : Grants H m x fd t) (hfd : 0xFF < fd) :
    (Machine.perform H .openFile (byteValue x) (byteValue y) (byteValue z) m).1 =
      .error (match (H.close fd t).1 with
        | .ok _ => .descriptorOverflow fd
        | .error e => .closeFailed e) := by
  obtain ⟨mem, hp⟩ := exists_readString h.inside
  unfold Machine.perform Machine.openFile
  simp only
  rw [Action.bind_apply_ok (onMemory_ok hp),
    Action.bind_apply_ok (onHost_ok { m with memory := mem } h.opens), if_pos hfd]
  cases hc : H.close fd t with
  | mk r t' =>
    -- What the close makes of the host does not matter: its answer decides.
    cases r with
    | error e => rw [Action.bind_apply_error (onHost_error { m with memory := mem, host := t } hc)]
    | ok u =>
      rw [Action.bind_apply_ok (onHost_ok { m with memory := mem, host := t } hc)]
      rfl

theorem expected_of_kind {k : FaultKind} (hf : f.kind = k) (hk : k.isMachineFailure = true) :
    f.Expected :=
  .inl (hf ▸ hk)

/-- The only fault of a call that is not expected comes from a descriptor that sticks. -/
theorem Calls.error_cases (hw : b.layout.isWhole = true)
    (h : Calls H m (byteValue x) (byteValue y) (byteValue z) s (.error f) m') :
    (f.Expected ∧
      (f.kind = .hostIo → ∃ e, Refuses H m x y z s e ∧ f.hostNumber? = some e.number)) ∨
    ∃ e, f = .closeFailed e ∧ s = .openFile ∧ Sticks H m x e := by
  have hout {g : Fault} (hg : g.kind = .outOfBounds) : g.Expected ∧
      (g.kind = .hostIo → ∃ e, Refuses H m x y z s e ∧ g.hostNumber? = some e.number) := by
    refine ⟨expected_of_kind hg rfl, fun hk => ?_⟩
    rw [hg] at hk
    cases hk
  cases h with
  | pathOutside hp => exact .inl (hout (Memory.readString_error hp ▸ rfl))
  | openRefused hp ho =>
    obtain ⟨i, hi, hlt, rfl, rfl⟩ := Memory.readString_eq_ok_iff.1 hp
    obtain rfl : x.toNat = i := Int.ofNat.inj hi
    rw [Memory.string_eq_takeWhile (Nat.le_of_lt hlt)] at ho
    exact .inl ⟨.inl rfl, fun _ => ⟨_, .openFile hlt ho, rfl⟩⟩
  | openedTooHigh => exact .inl ⟨.inl rfl, fun hk => by cases hk⟩
  | openedStuck hp ho hfd hc =>
    obtain ⟨i, hi, hlt, rfl, rfl⟩ := Memory.readString_eq_ok_iff.1 hp
    obtain rfl : x.toNat = i := Int.ofNat.inj hi
    rw [Memory.string_eq_takeWhile (Nat.le_of_lt hlt)] at ho
    -- The one refusal that no call turns into a failed transfer.
    exact .inr ⟨_, rfl, rfl, _, _, _, ⟨hlt, ho⟩, hfd, hc⟩
  | codeMisplaced | codeTooLong | transferOutside => exact .inl (hout rfl)
  | codeRefused hp hr =>
    have hy : byteValue y = (y.toNat : Int) := rfl
    have hz : byteValue z = (z.toNat : Int) := rfl
    obtain ⟨hle, hsum⟩ := not_or.1 hp
    exact .inl ⟨.inl rfl, fun _ => ⟨_, .readCode (by omega) (by omega) hr, rfl⟩⟩
  | codeUndecoded _ _ hd =>
    have hk := kind_of_decodeProgram_of_isWhole hw hd
    refine .inl ⟨expected_of_kind hk rfl, fun hn => ?_⟩
    rw [hk] at hn
    cases hn
  | readRefused hs hr =>
    have hy : byteValue y = (y.toNat : Int) := rfl
    have hz : byteValue z = (z.toNat : Int) := rfl
    exact .inl ⟨.inl rfl, fun _ => ⟨_, .readMemory (by omega) hr, rfl⟩⟩
  | readOutside _ _ hw => exact .inl (hout (Memory.writeRange_error hw ▸ rfl))
  | writeOutside hr => exact .inl (hout (Memory.readRange_error hr ▸ rfl))
  | writeRefused hr hw =>
    obtain ⟨i, k, hi, hk, hle, rfl, rfl⟩ := Memory.readRange_eq_ok_iff.1 hr
    obtain rfl : y.toNat = i := Int.ofNat.inj hi
    obtain rfl : z.toNat = k := Int.ofNat.inj hk
    rw [Memory.slice_eq_take hle] at hw
    exact .inl ⟨.inl rfl, fun _ => ⟨_, .write hle hw, rfl⟩⟩
  | sleepless hr =>
    rw [H.sleepRefusal_byteValue] at hr
    cases hr
  | exited => exact .inl ⟨.inr rfl, fun hk => by cases hk⟩

/-! ## The step that makes the call -/

/-- The state in which a call is made that the instruction `i` asks for. -/
def calling (m : Machine b σ) (i : Instruction) (s : Syscall) : Machine b σ :=
  (m.begun i).tell (.called s (byteValue (m.registers.get .A)) (byteValue (m.registers.get .B))
    (byteValue (m.registers.get .C)))

theorem refuses_calling_iff (i : Instruction) (q : Syscall) :
    Refuses H (m.calling i q) x y z s e ↔ Refuses H m x y z s e := by
  -- What the host is asked for depends neither on the observer nor on the records.
  constructor
  all_goals
    intro h
    cases h with
    | openFile hx ho => exact .openFile hx ho
    | readCode hy hz hr => exact .readCode hy hz hr
    | readMemory hz hr => exact .readMemory hz hr
    | write hz hw => exact .write hz hw

theorem grants_calling_iff (i : Instruction) (q : Syscall) {fd : Nat} {t : σ} :
    Grants H (m.calling i q) x fd t ↔ Grants H m x fd t :=
  ⟨fun h => ⟨h.inside, h.opens⟩, fun h => ⟨h.inside, h.opens⟩⟩

theorem sticks_calling_iff (i : Instruction) (q : Syscall) :
    Sticks H (m.calling i q) x e ↔ Sticks H m x e := by
  unfold Sticks
  simp only [grants_calling_iff]

theorem step_of_call (hx : m.exitCode = none) {result : Operand}
    (hf : m.fetch = .ok (.sys (b.syscalls.get s) result))
    (hc : (perform H s (byteValue (m.registers.get .A)) (byteValue (m.registers.get .B))
      (byteValue (m.registers.get .C)) (m.calling (.sys (b.syscalls.get s) result) s)).1 =
        .error f) (hn : f.kind ≠ .halt) : (step H m).1 = .error f := by
  have hs : Syscall.ofCode? b (byteValue (b.syscalls.get s)) = some s :=
    Syscall.ofCode?_byteValue_iff.2 rfl
  have hd : (call H (b.syscalls.get s) (m.begun (.sys (b.syscalls.get s) result))).1 =
      .error f := by
    unfold call dispatch
    rw [hs, get_begun m _ (by decide), get_begun m _ (by decide), get_begun m _ (by decide)]
    exact hc
  have he : (call H (b.syscalls.get s) >>= fun v => writeOperand result v)
      (m.begun (.sys (b.syscalls.get s) result)) = (.error f, _) :=
    Action.bind_apply_error (Prod.ext hd rfl)
  exact congrArg Prod.fst (Steps.failed hx hf he (not_halt.1 hn)).step_eq

theorem Refused.step_eq (h : Refused H m e) :
    ∃ f, (step H m).1 = .error f ∧ f.kind = .hostIo ∧ f.hostNumber? = some e.number := by
  obtain ⟨s, ⟨hx, result, hf⟩, hr⟩ := h
  obtain ⟨f, hc, hk, hn⟩ :=
    ((refuses_calling_iff (.sys (b.syscalls.get s) result) s).2 hr).perform
  exact ⟨f, step_of_call hx hf hc (by rw [hk]; decide), hk, hn⟩

theorem Obtains.step_eq {fd : Nat} {t : σ} (h : Obtains H m fd t) (hfd : 0xFF < fd) :
    (step H m).1 = .error (match (H.close fd t).1 with
      | .ok _ => .descriptorOverflow fd
      | .error e => .closeFailed e) := by
  obtain ⟨⟨hx, result, hf⟩, hg⟩ := h
  have hc := ((grants_calling_iff (.sys (b.syscalls.get .openFile) result) .openFile).2
    hg).perform_tooHigh (y := m.registers.get .B) (z := m.registers.get .C) hfd
  refine step_of_call hx hf hc ?_
  cases (H.close fd t).1 <;> simp [Fault.kind]

theorem Strands.step_eq (h : Strands H m e) : (step H m).1 = .error (.closeFailed e) := by
  obtain ⟨ha, fd, t, t', hg, hfd, hc⟩ := h
  have hs := Obtains.step_eq ⟨ha, hg⟩ hfd
  rw [hc] at hs
  exact hs

/-- A step fails as expected unless it strands a descriptor; a failed transfer is one that the host
has refused. -/
theorem step_error_cases (hw : b.layout.isWhole = true)
    (hs : m.stack.memory.size = addressSpaceSize) (hp : ∀ i ∈ m.program, i.IsProper)
    (h : (step H m).1 = .error f) :
    (f.Expected ∧ (f.kind = .hostIo → ∃ e, Refused H m e ∧ f.hostNumber? = some e.number)) ∨
    ∃ e, f = .closeFailed e ∧ Strands H m e := by
  have hexp {g : Fault} {k : FaultKind} (hg : g.kind = k) (hk : k.isMachineFailure = true)
      (hio : k ≠ .hostIo) : g.Expected ∧
        (g.kind = .hostIo → ∃ e, Refused H m e ∧ g.hostNumber? = some e.number) :=
    ⟨expected_of_kind hg hk, fun hn => absurd (hg.symm.trans hn) hio⟩
  obtain ⟨m', hst⟩ : ∃ m', step H m = (.error f, m') := ⟨_, Prod.ext h rfl⟩
  cases step_eq_iff.1 hst with
  | halted => exact .inl ⟨.inr rfl, fun hk => by cases hk⟩
  | unfetched _ hf => exact .inl (hexp (kind_of_fetch hf) rfl (by decide))
  | failed hx hf he =>
    have hi := hp _ (List.mem_of_getElem? (fetch_eq_ok_iff.1 hf))
    have hF := execute_fails (m := m.begun _) hs hi he
    cases hF with
    | outside | full | empty | unfit => exact .inl (hexp rfl rfl (by simp [Fault.kind]))
    | @refused number result _ _ hc =>
      obtain ⟨-, hg, -⟩ | ⟨s, hn, hc⟩ := dispatch_cases hc
      · cases hg
        exact .inl (hexp rfl rfl (by simp [Fault.kind]))
      · obtain rfl := Syscall.ofCode?_byteValue_iff.1 hn
        -- Fetching moves only `I`, so the arguments of the call are those in the registers of `m`.
        rw [get_begun m _ (by decide), get_begun m _ (by decide), get_begun m _ (by decide)] at hc
        have ha : m.Asks s := ⟨hx, result, hf⟩
        obtain ⟨hE, hio⟩ | ⟨e, hfe, rfl, hst⟩ := hc.error_cases hw
        · refine .inl ⟨hE, fun hk => ?_⟩
          obtain ⟨e, hr, hnum⟩ := hio hk
          exact ⟨e, ⟨s, ha, (refuses_calling_iff _ _).1 hr⟩, hnum⟩
        · exact .inr ⟨e, hfe, ha, (sticks_calling_iff _ _).1 hst⟩

/-- **A step fails as expected unless it strands a descriptor.** In every state that a machine
reaches, on every host: each refusal of a file or of a transfer comes out as a failed transfer with
its number, and nothing else comes out so. A descriptor that is no byte is taken back and reported;
where the host refuses to take it back, its refusal comes out bare, and this is the only fault that
is neither a failure of the machine nor the halt after an exit. -/
theorem faults_expected_iff (H : Host σ) (m : Machine b σ) (hw : b.layout.isWhole = true)
    (hs : m.stack.memory.size = addressSpaceSize) (hp : ∀ i ∈ m.program, i.IsProper) (n : Nat) :
    ((∀ f, (step H (after H n m)).1 = .error f → f.Expected) ↔ ∀ e, ¬ Strands H (after H n m) e) ∧
    (∀ e, Refused H (after H n m) e → ∃ f, (step H (after H n m)).1 = .error f ∧
      f.kind = .hostIo ∧ f.hostNumber? = some e.number) ∧
    (∀ f, (step H (after H n m)).1 = .error f → f.kind = .hostIo →
      ∃ e, Refused H (after H n m) e ∧ f.hostNumber? = some e.number) ∧
    ∀ fd t, Obtains H (after H n m) fd t → 0xFF < fd →
      (step H (after H n m)).1 = .error (match (H.close fd t).1 with
        | .ok _ => .descriptorOverflow fd
        | .error e => .closeFailed e) := by
  have hk := keeps_after H n m
  have hs' := hk.stackSize.trans hs
  have hp' := hk.proper hp
  refine ⟨⟨fun h e he => ?_, fun h f hf => ?_⟩, fun e => Refused.step_eq, fun f hf hio => ?_,
    fun fd t => Obtains.step_eq⟩
  · have hE := h _ he.step_eq
    simp [Fault.Expected, Fault.kind, FaultKind.isMachineFailure] at hE
  · obtain ⟨hE, -⟩ | ⟨e, -, he⟩ := step_error_cases hw hs' hp' hf
    · exact hE
    · exact absurd he (h e)
  · obtain ⟨-, hr⟩ | ⟨e, rfl, -⟩ := step_error_cases hw hs' hp' hf
    · exact hr hio
    · cases hio

/-- A machine that writes the path `f` at the address 0 and then opens it. -/
def opening (host : Simulated) : Machine .standard Simulated :=
  .fresh .standard [.imm (some .B) 0x66, .stm (some .A) (some .B), .sys 0x08 (some .A)]
    (.ofSize .main addressSpaceSize) false host

/-- Without such a file the opening fails with the number of the refusal. -/
theorem opening_missing :
    Bindings.standard.layout.isWhole = true ∧ (∀ i ∈ (opening .empty).program, i.IsProper) ∧
      ∃ f, (step Simulated.host (after Simulated.host 2 (opening .empty))).1 = .error f ∧
        f.kind = .hostIo ∧ f.hostNumber? = some 2 := by
  have hs : (opening .empty).stack.memory.size = addressSpaceSize := Memory.size_ofSize .stack _
  have hp : ∀ i ∈ (opening .empty).program, i.IsProper := by decide
  have ha : (after Simulated.host 2 (opening .empty)).Asks .openFile :=
    ⟨by decide +kernel, some .A, fetch_eq_ok_iff.2 (by decide +kernel)⟩
  have hr : Refused Simulated.host (after Simulated.host 2 (opening .empty))
      Simulated.noSuchFile :=
    ⟨.openFile, ha, .openFile (by decide +kernel) (Prod.ext (by decide +kernel) rfl)⟩
  obtain ⟨-, h, -⟩ := faults_expected_iff Simulated.host (opening .empty) rfl hs hp 2
  exact ⟨rfl, hp, h _ hr⟩

/-- A host with the file `f`, whose only free descriptor is no byte and cannot be closed. -/
def crowded : Simulated :=
  { Simulated.empty with
    files := Simulated.empty.files.insert [0x66] ⟨⟨[], none, none, none, none⟩, none⟩
    firstDescriptor := 0x100
    closeRefused := [0x100] }

/-- There the refusal to close comes out bare. -/
theorem opening_stranded :
    Bindings.standard.layout.isWhole = true ∧ (∀ i ∈ (opening crowded).program, i.IsProper) ∧
      (step Simulated.host (after Simulated.host 2 (opening crowded))).1 =
        .error (.closeFailed Simulated.badDescriptor) ∧
      ¬ (Fault.closeFailed Simulated.badDescriptor).Expected := by
  have ha : (after Simulated.host 2 (opening crowded)).Asks .openFile :=
    ⟨by decide +kernel, some .A, fetch_eq_ok_iff.2 (by decide +kernel)⟩
  have hs : Strands Simulated.host (after Simulated.host 2 (opening crowded))
      Simulated.badDescriptor :=
    ⟨ha, 0x100, _, _, ⟨by decide +kernel, Prod.ext (by decide +kernel) rfl⟩, by decide,
      Prod.ext (by decide +kernel) rfl⟩
  exact ⟨rfl, by decide, hs.step_eq, by simp [Fault.Expected, Fault.kind,
    FaultKind.isMachineFailure]⟩

end Machine

end Yan85
