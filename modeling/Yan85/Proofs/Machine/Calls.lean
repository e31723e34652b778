import Yan85.Proofs.Machine.Effects

/-! # The ways in which a system call can end

* `Calls H m x y z s r m'`: the system call `s` with the arguments `x`, `y` and `z`, made in the
  state `m`, ends with `r` and leaves `m'`. `perform_calls` says that this is what `perform` does;
  proofs about system calls are by cases on it.
* `dispatch_cases`, `execute_sys_cases`: the call of a code, and the instruction that makes it.
-/

namespace Yan85.Machine
set_option autoImplicit false

variable {b : Bindings} {σ : Type} {H : Host σ} {m m' : Machine b σ} {x y z : Int}

/-- There is no place for `count` instructions at `start`. -/
abbrev Misplaced (m : Machine b σ) (start count : Int) : Prop :=
  (m.program.length : Int) < start ∨ (addressSpaceSize : Int) < start + count

/-- The system call with the arguments `x`, `y` and `z` ends with a result and leaves a state. -/
inductive Calls (H : Host σ) (m : Machine b σ) (x y z : Int) :
    Syscall → Except Fault Int → Machine b σ → Prop
  | pathOutside {f : Fault} (hp : m.memory.readString x = .error f) :
      Calls H m x y z .openFile (.error f) m
  | openRefused {path : List UInt8} {mem : Memory} {e : HostFailure} {s : σ}
      (hp : m.memory.readString x = .ok (path, mem))
      (ho : H.openFile path m.host = (.error e, s)) :
      Calls H m x y z .openFile (.error (.openFailed path e)) { m with memory := mem, host := s }
  | openedTooHigh {path : List UInt8} {mem : Memory} {fd : Nat} {s s' : σ}
      (hp : m.memory.readString x = .ok (path, mem)) (ho : H.openFile path m.host = (.ok fd, s))
      (hfd : 0xFF < fd) (hc : H.close fd s = (.ok (), s')) :
      Calls H m x y z .openFile (.error (.descriptorOverflow fd))
        { m with memory := mem, host := s' }
  | openedStuck {path : List UInt8} {mem : Memory} {fd : Nat} {s s' : σ} {e : HostFailure}
      (hp : m.memory.readString x = .ok (path, mem)) (ho : H.openFile path m.host = (.ok fd, s))
      (hfd : 0xFF < fd) (hc : H.close fd s = (.error e, s')) :
      Calls H m x y z .openFile (.error (.closeFailed e)) { m with memory := mem, host := s' }
  | opened {path : List UInt8} {mem : Memory} {fd : Nat} {s : σ}
      (hp : m.memory.readString x = .ok (path, mem)) (ho : H.openFile path m.host = (.ok fd, s))
      (hfd : fd ≤ 0xFF) :
      Calls H m x y z .openFile (.ok fd)
        ({ m with memory := mem, host := s, descriptors := m.descriptors.insert fd path }.tell
          (.opened path fd))
  | codeMisplaced (hp : m.Misplaced y z) :
      Calls H m x y z .readCode (.error (.placementOutside z y m.program.length)) m
  | codeRefused {e : HostFailure} {s : σ} (hp : ¬ m.Misplaced y z)
      (hr : H.read x (z * instructionSize) m.host = (.error e, s)) :
      Calls H m x y z .readCode (.error (.readFailed x e)) { m with host := s }
  | codeUndecoded {data : List UInt8} {s : σ} {f : Fault} (hp : ¬ m.Misplaced y z)
      (hr : H.read x (z * instructionSize) m.host = (.ok data, s))
      (hd : decodeProgram b data = .error f) :
      Calls H m x y z .readCode (.error f) { m with host := s }
  | codeTooLong {data : List UInt8} {s : σ} {code : List Instruction} (hp : ¬ m.Misplaced y z)
      (hr : H.read x (z * instructionSize) m.host = (.ok data, s))
      (hd : decodeProgram b data = .ok code) (hl : m.Misplaced y code.length) :
      Calls H m x y z .readCode (.error (.placementOutside code.length y m.program.length))
        { m with host := s }
  | codeRead {data : List UInt8} {s : σ} {code : List Instruction} (hp : ¬ m.Misplaced y z)
      (hr : H.read x (z * instructionSize) m.host = (.ok data, s))
      (hd : decodeProgram b data = .ok code) (hl : ¬ m.Misplaced y code.length) :
      Calls H m x y z .readCode (.ok code.length)
        { m with host := s, program := spliceFrom m.program y code }
  | transferOutside (hs : (m.memory.size : Int) < y + z) :
      Calls H m x y z .readMemory (.error (.transferOutside z y)) m
  | readRefused {e : HostFailure} {s : σ} (hs : ¬ (m.memory.size : Int) < y + z)
      (hr : H.read x z m.host = (.error e, s)) :
      Calls H m x y z .readMemory (.error (.readFailed x e)) { m with host := s }
  | readOutside {data : List UInt8} {s : σ} {f : Fault} (hs : ¬ (m.memory.size : Int) < y + z)
      (hr : H.read x z m.host = (.ok data, s)) (hw : m.memory.writeRange y data = .error f) :
      Calls H m x y z .readMemory (.error f) { m with host := s }
  | read {data : List UInt8} {s : σ} {mem : Memory} (hs : ¬ (m.memory.size : Int) < y + z)
      (hr : H.read x z m.host = (.ok data, s)) (hw : m.memory.writeRange y data = .ok mem) :
      Calls H m x y z .readMemory (.ok data.length) { m with host := s, memory := mem }
  | writeOutside {f : Fault} (hr : m.memory.readRange y z = .error f) :
      Calls H m x y z .write (.error f) m
  | writeRefused {data : List UInt8} {mem : Memory} {e : HostFailure} {s : σ}
      (hr : m.memory.readRange y z = .ok (data, mem)) (hw : H.write x data m.host = (.error e, s)) :
      Calls H m x y z .write (.error (.writeFailed x e)) { m with memory := mem, host := s }
  | written {data : List UInt8} {mem : Memory} {n : Nat} {s : σ}
      (hr : m.memory.readRange y z = .ok (data, mem)) (hw : H.write x data m.host = (.ok n, s)) :
      Calls H m x y z .write (.ok n) { m with memory := mem, host := s }
  | sleepless {f : SleepFailure} (hr : H.sleepRefusal x = some f) :
      Calls H m x y z .sleep (.error (.sleepRefused f)) m
  | slept (hr : H.sleepRefusal x = none) :
      Calls H m x y z .sleep (.ok 0) { m with host := H.sleep x m.host }
  | exited : Calls H m x y z .exit (.error (.halt x)) m

/-! ## Requests to the host -/

theorem onHost_ok (m : Machine b σ) {α : Type} {request : σ → Except HostFailure α × σ}
    {blame : HostFailure → Fault} {a : α} {s : σ} (h : request m.host = (.ok a, s)) :
    onHost request blame m = (.ok a, { m with host := s }) := by
  simp only [onHost, h]
  rfl

theorem onHost_error (m : Machine b σ) {α : Type} {request : σ → Except HostFailure α × σ}
    {blame : HostFailure → Fault} {e : HostFailure} {s : σ} (h : request m.host = (.error e, s)) :
    onHost request blame m = (.error (blame e), { m with host := s }) := by
  simp only [onHost, h]
  rfl

theorem misplaced_natCast_iff {start count : Nat} :
    m.Misplaced start count ↔
      m.program.length < start ∨ addressSpaceSize < start + count := by
  unfold Misplaced
  omega

theorem checkPlacement_of_misplaced {start count : Int} (h : m.Misplaced start count) :
    checkPlacement start count m = (.error (.placementOutside count start m.program.length), m) :=
  if_pos h

theorem checkPlacement_of_not_misplaced {start count : Int} (h : ¬ m.Misplaced start count) :
    checkPlacement start count m = (.ok (), m) :=
  if_neg h

theorem writeCode_of_misplaced {start : Int} {code : List Instruction}
    (h : m.Misplaced start code.length) :
    writeCode start code m =
      (.error (.placementOutside code.length start m.program.length), m) :=
  Action.bind_apply_error (checkPlacement_of_misplaced h)

theorem writeCode_of_not_misplaced {start : Int} {code : List Instruction}
    (h : ¬ m.Misplaced start code.length) :
    writeCode start code m = (.ok (), { m with program := spliceFrom m.program start code }) :=
  Action.bind_apply_ok (checkPlacement_of_not_misplaced h)

/-! ## The calls -/

theorem openFile_calls (H : Host σ) (m : Machine b σ) (x y z : Int) :
    Calls H m x y z .openFile (openFile H x m).1 (openFile H x m).2 := by
  unfold openFile
  cases hp : m.memory.readString x with
  | error f =>
    rw [Action.bind_apply_error (onMemory_error hp)]
    exact .pathOutside hp
  | ok p =>
    obtain ⟨path, mem⟩ := p
    rw [Action.bind_apply_ok (onMemory_ok hp)]
    cases ho : H.openFile path m.host with
    | mk r s =>
      cases r with
      | error e =>
        rw [Action.bind_apply_error (onHost_error { m with memory := mem } ho)]
        exact .openRefused hp ho
      | ok fd =>
        rw [Action.bind_apply_ok (onHost_ok { m with memory := mem } ho)]
        by_cases hfd : 0xFF < fd
        · rw [if_pos hfd]
          cases hc : H.close fd s with
          | mk r' s' =>
            cases r' with
            | error e =>
              rw [Action.bind_apply_error (onHost_error { m with memory := mem, host := s } hc)]
              exact .openedStuck hp ho hfd hc
            | ok u =>
              rw [Action.bind_apply_ok (onHost_ok { m with memory := mem, host := s } hc)]
              exact .openedTooHigh hp ho hfd hc
        · rw [if_neg hfd]
          exact .opened hp ho (Nat.le_of_not_lt hfd)

theorem readCode_calls (H : Host σ) (m : Machine b σ) (x y z : Int) :
    Calls H m x y z .readCode (readCode H x y z m).1 (readCode H x y z m).2 := by
  unfold readCode readHost
  by_cases hp : m.Misplaced y z
  · rw [Action.bind_apply_error (checkPlacement_of_misplaced hp)]
    exact .codeMisplaced hp
  · rw [Action.bind_apply_ok (checkPlacement_of_not_misplaced hp)]
    cases hr : H.read x (z * instructionSize) m.host with
    | mk r s =>
      cases r with
      | error e =>
        rw [Action.bind_apply_error (onHost_error m hr)]
        exact .codeRefused hp hr
      | ok data =>
        rw [Action.bind_apply_ok (onHost_ok m hr)]
        rcases hd : decodeProgram b data with f | code
        · have ha := Action.lift_apply (Except.error f : Except Fault (List Instruction))
            { m with host := s }
          rw [Action.bind_apply_error ha]
          exact .codeUndecoded hp hr hd
        · have ha := Action.lift_apply (Except.ok code) { m with host := s }
          rw [Action.bind_apply_ok ha]
          by_cases hl : m.Misplaced y code.length
          · rw [Action.bind_apply_error (writeCode_of_misplaced (m := { m with host := s }) hl)]
            exact .codeTooLong hp hr hd hl
          · rw [Action.bind_apply_ok (writeCode_of_not_misplaced (m := { m with host := s }) hl)]
            exact .codeRead hp hr hd hl

theorem readMemory_calls (H : Host σ) (m : Machine b σ) (x y z : Int) :
    Calls H m x y z .readMemory (readMemory H x y z m).1 (readMemory H x y z m).2 := by
  unfold readMemory readHost
  rw [Action.bind_apply_ok (Action.state_apply m)]
  by_cases hs : (m.memory.size : Int) < y + z
  · rw [if_pos hs]
    exact .transferOutside hs
  · rw [if_neg hs]
    cases hr : H.read x z m.host with
    | mk r s =>
      cases r with
      | error e =>
        rw [Action.bind_apply_error (onHost_error m hr)]
        exact .readRefused hs hr
      | ok data =>
        rw [Action.bind_apply_ok (onHost_ok m hr)]
        cases hw : m.memory.writeRange y data with
        | error f =>
          rw [Action.bind_apply_error (changeMemory_error hw)]
          exact .readOutside hs hr hw
        | ok mem =>
          rw [Action.bind_apply_ok (changeMemory_ok hw)]
          exact .read hs hr hw

theorem writeHost_calls (H : Host σ) (m : Machine b σ) (x y z : Int) :
    Calls H m x y z .write (writeHost H x y z m).1 (writeHost H x y z m).2 := by
  unfold writeHost
  cases hr : m.memory.readRange y z with
  | error f =>
    rw [Action.bind_apply_error (onMemory_error hr)]
    exact .writeOutside hr
  | ok p =>
    obtain ⟨data, mem⟩ := p
    rw [Action.bind_apply_ok (onMemory_ok hr)]
    cases hw : H.write x data m.host with
    | mk r s =>
      cases r with
      | error e =>
        rw [Action.bind_apply_error (onHost_error { m with memory := mem } hw)]
        exact .writeRefused hr hw
      | ok n =>
        rw [Action.bind_apply_ok (onHost_ok { m with memory := mem } hw)]
        exact .written hr hw

theorem sleep_calls (H : Host σ) (m : Machine b σ) (x y z : Int) :
    Calls H m x y z .sleep (sleep H x m).1 (sleep H x m).2 := by
  unfold sleep
  cases hr : H.sleepRefusal x with
  | some f => exact .sleepless hr
  | none => exact .slept hr

theorem perform_calls (H : Host σ) (m : Machine b σ) (x y z : Int) (s : Syscall) :
    Calls H m x y z s (perform H s x y z m).1 (perform H s x y z m).2 := by
  cases s with
  | openFile =>
    rw [perform_openFile]
    exact openFile_calls H m x y z
  | readCode =>
    rw [perform_readCode]
    exact readCode_calls H m x y z
  | readMemory =>
    rw [perform_readMemory]
    exact readMemory_calls H m x y z
  | write =>
    rw [perform_write]
    exact writeHost_calls H m x y z
  | sleep =>
    rw [perform_sleep]
    exact sleep_calls H m x y z
  | exit =>
    rw [perform_exit]
    exact .exited

/-! ## The instruction -/

theorem dispatch_of_code {code : Int} {s : Syscall} (hs : Syscall.ofCode? b code = some s)
    (H : Host σ) (m : Machine b σ) (x y z : Int) :
    dispatch H code x y z m = perform H s x y z (m.tell (.called s x y z)) := by
  rw [dispatch, hs]
  rfl

theorem dispatch_of_no_code {code : Int} (hs : Syscall.ofCode? b code = none) (H : Host σ)
    (m : Machine b σ) (x y z : Int) :
    dispatch H code x y z m = (.error (.unsupportedSyscall code), m) := by
  rw [dispatch, hs]
  rfl

theorem dispatch_cases {code : Int} {r : Except Fault Int} (h : dispatch H code x y z m = (r, m')) :
    (Syscall.ofCode? b code = none ∧ r = .error (.unsupportedSyscall code) ∧ m' = m) ∨
    ∃ s, Syscall.ofCode? b code = some s ∧ Calls H (m.tell (.called s x y z)) x y z s r m' := by
  unfold dispatch at h
  cases hs : Syscall.ofCode? b code with
  | none =>
    rw [hs] at h
    cases h
    exact .inl ⟨rfl, rfl, rfl⟩
  | some s =>
    rw [hs] at h
    have hc := perform_calls H (m.tell (.called s x y z)) x y z s
    change perform H s x y z (m.tell (.called s x y z)) = (r, m') at h
    rw [h] at hc
    exact .inr ⟨s, rfl, hc⟩

/-- The call that an instruction makes: its arguments are the bytes of `A`, `B` and `C`. -/
def call (H : Host σ) (number : UInt8) : Action (Machine b σ) Int := fun m =>
  dispatch H (byteValue number) (byteValue (m.registers.get .A)) (byteValue (m.registers.get .B))
    (byteValue (m.registers.get .C)) m

theorem execute_sys_cases {number : UInt8} {result : Operand} {r : Except Fault Unit}
    (h : execute H (.sys number result) m = (r, m')) :
    (∃ f, call H number m = (.error f, m') ∧ r = .error f) ∨
    ∃ v m1, call H number m = (.ok v, m1) ∧ writeOperand result v m1 = (r, m') := by
  change (call H number >>= fun v => writeOperand result v) m = (r, m') at h
  cases hc : call H number m with
  | mk r1 m1 =>
    cases r1 with
    | error f =>
      rw [Action.bind_apply_error hc] at h
      cases h
      exact .inl ⟨f, rfl, rfl⟩
    | ok v =>
      rw [Action.bind_apply_ok hc] at h
      exact .inr ⟨v, m1, rfl, h⟩

end Yan85.Machine
