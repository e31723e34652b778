import Yan85.Bindings.Standard
import Yan85.Host.Simulated
import Yan85.Proofs.Bindings.Exactness
import Yan85.Proofs.Listings
import Yan85.Proofs.Machine.Actions
import Yan85.Proofs.Machine.RangeChecks
import Yan85.Proofs.Machine.Steps

/-! # The call, the name and the text of a code

* `boundSyscall?_eq_some_iff`, `ofCode?_eq_boundSyscall?`: the name of a code and the call that is
  made for it are looked up in different ways, with one result.
* `Makes H m code x y z s`: the call of `code` is told as the system call `s`, and then is that
  call. `makes_iff` says for which `s` it is so.
* `text_sys_eq_name_iff`, `listedByNumber_iff`: the text of an instruction shows the name of a call,
  or a number if there is no name.
* `execute_sys_unsupported_iff`, `raises_unsupported_iff`: which instructions fail because there is
  no such call.
* `syscall_lookups_agree`: all of this for the call of a code.
-/

namespace Yan85
set_option autoImplicit false

open Yan85.Text

variable {b : Bindings} {σ : Type} {code : Int} {number : UInt8} {result : Operand} {s : Syscall}

/-! ## Look-ups -/

theorem Bindings.boundSyscall?_eq_some_iff :
    b.boundSyscall? code = some s ↔ byteValue (b.syscalls.get s) = code :=
  b.syscalls_distinct.firstWith?_int_iff

theorem Syscall.ofCode?_eq_some_iff :
    Syscall.ofCode? b code = some s ↔ byteValue (b.syscalls.get s) = code := by
  constructor
  · intro h
    have hs := List.find?_some h
    exact beq_iff_eq.1 hs
  · rintro rfl
    exact Syscall.ofCode?_byteValue_iff.2 rfl

/-- The call of a code is looked up among all calls, and its name among the entries of a table. -/
theorem Syscall.ofCode?_eq_boundSyscall? (b : Bindings) (code : Int) :
    Syscall.ofCode? b code = b.boundSyscall? code := by
  refine Option.ext fun s => ?_
  rw [Syscall.ofCode?_eq_some_iff, Bindings.boundSyscall?_eq_some_iff]

/-! ## Texts -/

namespace Instruction

/-- The text of a system call with a result register shows a number and no name. -/
def ListedByNumber (b : Bindings) (number : UInt8) (result : Operand) : Prop :=
  ∃ x, (sys number result).text b = "SYS " ++ Hex.marked x ++ " " ++ operandText result

theorem text_sys_eq_iff {w : String} :
    (sys number result).text b = "SYS " ++ w ++ " " ++ operandText result ↔
      syscallText b number = w := by
  change "SYS " ++ syscallText b number ++ " " ++ operandText result = _ ↔ _
  rw [String.append_left_inj, String.append_left_inj, String.append_right_inj]

theorem text_sys_eq_name_iff :
    (sys number result).text b = "SYS " ++ Enumerated.name s ++ " " ++ operandText result ↔
      b.boundSyscall? (byteValue number) = some s :=
  text_sys_eq_iff.trans syscallText_eq_name_iff

theorem listedByNumber_iff :
    ListedByNumber b number result ↔ b.boundSyscall? (byteValue number) = none := by
  unfold ListedByNumber
  simp only [text_sys_eq_iff, syscallText_eq_marked_iff, exists_eq_left]

end Instruction

namespace Machine

variable {H : Host σ} {m m' : Machine b σ} {x y z : Int}

/-! ## Calls -/

/-- The call of `code` is told as the system call `s`, and then is that call. Which action carries out
`s` is told for each system call by `perform_openFile`, `perform_readCode`, `perform_readMemory`,
`perform_write`, `perform_sleep` and `perform_exit`. -/
def Makes (H : Host σ) (m : Machine b σ) (code x y z : Int) (s : Syscall) : Prop :=
  dispatch H code x y z m = perform H s x y z (m.tell (.called s x y z))

/-- A system call leaves standing what has been told. -/
theorem Calls.diagnostics_kept {r : Except Fault Int} (h : Calls H m x y z s r m') :
    m.diagnostics.toList <+: m'.diagnostics.toList := by
  cases h with
  | opened => exact ⟨_, Array.toList_push.symm⟩
  | _ => exact List.prefix_rfl

/-- The telling of a call is the first thing that is told after `m`. -/
theorem told_of_perform (H : Host σ) (m : Machine b σ) (x y z : Int) (s : Syscall) :
    m.diagnostics.toList ++ [.called s x y z] <+:
      (perform H s x y z (m.tell (.called s x y z))).2.diagnostics.toList := by
  have hp := (perform_calls H (m.tell (.called s x y z)) x y z s).diagnostics_kept
  have ht : (m.tell (.called s x y z)).diagnostics.toList =
      m.diagnostics.toList ++ [.called s x y z] := Array.toList_push
  rw [ht] at hp
  exact hp

theorem makes_iff (H : Host σ) (m : Machine b σ) (code x y z : Int) (s : Syscall) :
    Makes H m code x y z s ↔ byteValue (b.syscalls.get s) = code := by
  rw [← Syscall.ofCode?_eq_some_iff]
  constructor
  · intro h
    have hs := told_of_perform H m x y z s
    rw [← h] at hs
    cases hq : Syscall.ofCode? b code with
    | none =>
      -- Nothing would have been told.
      rw [dispatch_of_no_code hq] at hs
      have hl := hs.length_le
      rw [List.length_append, List.length_singleton] at hl
      exact absurd hl (Nat.not_succ_le_self _)
    | some q =>
      rw [dispatch_of_code hq] at hs
      have ht := told_of_perform H m x y z q
      have he := List.prefix_of_prefix_length_le hs ht (by simp)
      have hc := List.append_cancel_left (he.eq_of_length (by simp))
      cases hc
      rfl
  · exact fun h => dispatch_of_code h H m x y z

theorem dispatch_unsupported_iff (H : Host σ) (m : Machine b σ) (code x y z : Int) :
    dispatch H code x y z m = (.error (.unsupportedSyscall code), m) ↔
      b.boundSyscall? code = none := by
  rw [← Syscall.ofCode?_eq_boundSyscall?]
  constructor
  · intro h
    rw [← unsupported_iff H m code x y z, h]
    exact ⟨_, rfl, rfl⟩
  · exact fun h => dispatch_of_no_code h H m x y z

/-! ## Instructions -/

theorem execute_sys_unsupported_iff (H : Host σ) (m : Machine b σ) (number : UInt8)
    (result : Operand) :
    (∃ f m', execute H (.sys number result) m = (.error f, m') ∧ f.kind = .unsupportedSyscall) ↔
      b.boundSyscall? (byteValue number) = none := by
  constructor
  · rintro ⟨f, m', h, hk⟩
    obtain ⟨g, hc, hg⟩ | ⟨v, m1, -, hw⟩ := execute_sys_cases h
    · cases hg
      rw [← Syscall.ofCode?_eq_boundSyscall?]
      exact (unsupported_iff H m _ _ _ _).1 ⟨f, congrArg Prod.fst hc, hk⟩
    · -- The call has succeeded, and its result could not be put into a register.
      have hmem := blames_writeOperand result v m1 f m' hw
      rw [hk] at hmem
      exact absurd hmem (by decide)
  · intro h
    have hc : call H number m = (.error (.unsupportedSyscall (byteValue number)), m) :=
      (dispatch_unsupported_iff H m _ _ _ _).2 h
    refine ⟨.unsupportedSyscall (byteValue number), m, ?_, rfl⟩
    change (call H number >>= fun v => writeOperand result v) m = _
    exact Action.bind_apply_error hc

theorem raises_unsupported_iff (H : Host σ) (hx : m.exitCode = none)
    (hf : m.fetch = .ok (.sys number result)) :
    Raises H m .unsupportedSyscall ↔ b.boundSyscall? (byteValue number) = none := by
  rw [raises_iff hx hf,
    ← execute_sys_unsupported_iff H (m.begun (.sys number result)) number result]
  simp

/-- **The look-ups of a system call agree.** For every encoding and every integer, the system call
that is made for a code is the one that has this byte, which is the one that the code has as its
name. Where there is none, and only there, the call is refused as unsupported, and nothing at all
has changed. An instruction is listed with the name in the one case and with its number as two
hexadecimal digits in the other, so that the instructions that are listed with a number are those
that fail as unsupported when they are run. -/
theorem syscall_lookups_agree (b : Bindings) (code : Int) :
    (∀ s, b.boundSyscall? code = some s ↔ byteValue (b.syscalls.get s) = code) ∧
    (∀ (H : Host σ) (m : Machine b σ) (x y z : Int),
      (∀ s, Makes H m code x y z s ↔ byteValue (b.syscalls.get s) = code) ∧
      ((∃ f, (dispatch H code x y z m).1 = .error f ∧ f.kind = .unsupportedSyscall) ↔
        b.boundSyscall? code = none) ∧
      (dispatch H code x y z m = (.error (.unsupportedSyscall code), m) ↔
        b.boundSyscall? code = none)) ∧
    ∀ number result, byteValue number = code →
      (∀ s, (Instruction.sys number result).text b =
          "SYS " ++ Enumerated.name s ++ " " ++ operandText result ↔
        b.boundSyscall? code = some s) ∧
      ((Instruction.sys number result).text b =
          "SYS " ++ Hex.marked number ++ " " ++ operandText result ↔
        b.boundSyscall? code = none) ∧
      ∀ (H : Host σ) (m : Machine b σ), m.exitCode = none →
        m.fetch = .ok (.sys number result) →
        (Instruction.ListedByNumber b number result ↔ Raises H m .unsupportedSyscall) := by
  refine ⟨fun s => Bindings.boundSyscall?_eq_some_iff, fun H m x y z => ⟨makes_iff H m code x y z,
    ?_, dispatch_unsupported_iff H m code x y z⟩, ?_⟩
  · rw [← Syscall.ofCode?_eq_boundSyscall?]
    exact unsupported_iff H m code x y z
  · rintro number result rfl
    refine ⟨fun s => Instruction.text_sys_eq_name_iff, ?_, fun H m hx hf => ?_⟩
    · rw [Instruction.text_sys_eq_iff, syscallText_eq_marked_iff]
      exact and_iff_right rfl
    · rw [Instruction.listedByNumber_iff, raises_unsupported_iff H hx hf]

/-- An encoding in which the exit has the least byte and the opening of a file the greatest. -/
def extremeCalls : Bindings :=
  { Bindings.standard with
    syscalls :=
      ⟨⟨[(.sleep, 2), (.exit, 0), (.write, 4), (.readCode, 1), (.openFile, 0xFF),
          (.readMemory, 0x10)], by decide⟩, by intro a; cases a <;> decide⟩
    syscalls_distinct := by unfold Table.Distinct; decide }

/-- A machine about to make a call with a byte that the standard encoding has, and this one not. -/
def exiting : Machine extremeCalls Simulated :=
  .fresh extremeCalls [.sys 0x20 (some .A)] (.ofSize .main 16) false .empty

/-- The byte 0 is that of the exit. The byte 0x20 is listed as a number, and the machine fails on it
as unsupported. -/
theorem exiting_unsupported :
    Makes Simulated.host exiting 0 3 0 0 .exit ∧
      Instruction.ListedByNumber extremeCalls 0x20 (some .A) ∧
      Raises Simulated.host exiting .unsupportedSyscall := by
  obtain ⟨-, hzero, -⟩ := syscall_lookups_agree extremeCalls 0
  obtain ⟨-, -, htext⟩ := syscall_lookups_agree extremeCalls 0x20
  have hnone : extremeCalls.boundSyscall? 0x20 = none := by decide
  obtain ⟨-, hmarked, hruns⟩ := htext 0x20 (some .A) rfl
  have hf : exiting.fetch = .ok (.sys 0x20 (some .A)) := by
    have hI : exiting.registers.get .I = 0 := RegisterFile.get_zero .I
    rw [fetch_eq_ok_iff, hI]
    rfl
  have hl : Instruction.ListedByNumber extremeCalls 0x20 (some .A) := ⟨0x20, hmarked.2 hnone⟩
  exact ⟨((hzero Simulated.host exiting 3 0 0).1 .exit).2 (by decide), hl,
    (hruns Simulated.host exiting rfl hf).1 hl⟩

end Machine

end Yan85
