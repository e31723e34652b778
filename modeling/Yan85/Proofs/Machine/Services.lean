import Yan85.Bindings.Standard
import Yan85.Host.Simulated
import Yan85.Proofs.Bindings.Lookups
import Yan85.Proofs.Machine.Calls
import Yan85.Proofs.Machine.Steps
import Yan85.Proofs.Memory.Windows

/-! # What a system call brings, and what it leaves alone

* `Delivery`: a result, bytes for the memory, instructions for the program, and new descriptors.
* `Serves`: what each system call asks the host for, and the delivery that comes of the answer.
* `Brings m start d m'`: the delivery `d`, put into `m` from `start` on, gives the memories, the
  program and the descriptors of `m'`.
* `sys_delivers`: a step that makes a system call puts the result into its register, brings the rest
  of the delivery, moves `I` on and leaves everything else alone.
-/

namespace Yan85.Machine
set_option autoImplicit false

variable {b : Bindings} {σ : Type} {H : Host σ} {m m' : Machine b σ}

/-- What a system call brings into a machine. -/
structure Delivery where
  result : Int
  bytes : List UInt8 := []
  code : List Instruction := []
  opened : List (Nat × List UInt8) := []

/-- A system call with the arguments `x`, `y` and `z`, made where the memory holds `cells` and the
host is in the state `host`, asks the host for its service and so comes to a delivery. -/
inductive Serves (H : Host σ) (b : Bindings) (cells : List UInt8) (host : σ) (x y z : UInt8) :
    Syscall → Delivery → σ → Prop
  | opened {path : List UInt8} {fd : Nat} {s : σ} (hx : x.toNat < cells.length)
      (hp : path = (cells.drop x.toNat).takeWhile fun c => c != 0)
      (ho : H.openFile path host = (.ok fd, s)) :
      Serves H b cells host x y z .openFile { result := fd, opened := [(fd, path)] } s
  | codeRead {data : List UInt8} {code : List Instruction} {s : σ}
      (hr : H.read (byteValue x) (byteValue z * instructionSize) host = (.ok data, s))
      (hd : decodeProgram b data = .ok code) :
      Serves H b cells host x y z .readCode { result := code.length, code := code } s
  | read {data : List UInt8} {s : σ}
      (hr : H.read (byteValue x) (byteValue z) host = (.ok data, s)) :
      Serves H b cells host x y z .readMemory { result := data.length, bytes := data } s
  | written {offered : List UInt8} {n : Nat} {s : σ} (hl : y.toNat + z.toNat ≤ cells.length)
      (ho : offered = (cells.drop y.toNat).take z.toNat)
      (hw : H.write (byteValue x) offered host = (.ok n, s)) :
      Serves H b cells host x y z .write { result := n } s
  | slept : Serves H b cells host x y z .sleep { result := 0 } (H.sleep (byteValue x) host)

/-- The machine `m'` has the memories, the program and the descriptors of `m`, with a delivery put
into them from `start` on. -/
structure Brings (m : Machine b σ) (start : Nat) (d : Delivery) (m' : Machine b σ) : Prop where
  memory : ∀ k, m'.memory.cells[k]? = overlaid start d.bytes (fun j => m.memory.cells[j]?) k
  program : ∀ k, m'.program[k]? = overlaid start d.code (fun j => m.program[j]?) k
  stack : m'.stack.memory.cells = m.stack.memory.cells
  descriptors : m'.descriptors.entries = m.descriptors.entries ++ d.opened

theorem getElem?_splice {program : List Instruction} {start : Nat} (h : start ≤ program.length)
    (code : List Instruction) (k : Nat) :
    (splice program start code)[k]? = overlaid start code (fun j => program[j]?) k := by
  have hl : (program.take start).length = start := List.length_take_of_le h
  unfold splice overlaid
  rw [List.append_assoc]
  by_cases hk : k < start
  · rw [List.getElem?_append_left (hl.symm ▸ hk), List.getElem?_take_of_lt hk, if_neg (by omega)]
  · rw [List.getElem?_append_right (by omega), hl]
    by_cases hc : k < start + code.length
    · rw [List.getElem?_append_left (by omega), if_pos (by omega)]
    · rw [List.getElem?_append_right (by omega), List.getElem?_drop, if_neg (by omega)]
      congr 1
      omega

/-- A system call that succeeds has been served, and has changed no register. -/
theorem Calls.serves {x y z : UInt8} {s : Syscall} {v : Int}
    (h : Calls H m (byteValue x) (byteValue y) (byteValue z) s (.ok v) m')
    (hnew : ∀ path fd host, H.openFile path m.host = (.ok fd, host) → fd ∉ m.descriptors.keys) :
    m'.registers = m.registers ∧ ∃ d, d.result = v ∧
      Serves H b m.memory.cells.toList m.host x y z s d m'.host ∧ m.Brings y.toNat d m' := by
  have hbytes : ∀ k, m.memory.cells[k]? = overlaid y.toNat [] (fun j => m.memory.cells[j]?) k :=
    fun k => (overlaid_nil ..).symm
  have hcode : ∀ k, m.program[k]? = overlaid y.toNat [] (fun j => m.program[j]?) k :=
    fun k => (overlaid_nil ..).symm
  have hopened : m.descriptors.entries = m.descriptors.entries ++ [] := (List.append_nil _).symm
  cases h with
  | opened hp ho hfd =>
    obtain ⟨i, hi, hlt, rfl, rfl⟩ := Memory.readString_eq_ok_iff.1 hp
    obtain rfl : x.toNat = i := Int.ofNat.inj hi
    have hpath := Memory.string_eq_takeWhile (Nat.le_of_lt hlt)
    exact ⟨rfl, _, rfl, .opened hlt hpath ho,
      ⟨hbytes, hcode, rfl, Ordered.entries_insert _ (hnew _ _ _ ho)⟩⟩
  | codeRead _ hr hd hl =>
    have hle : y.toNat ≤ m.program.length := Int.ofNat_le.1 (Int.not_lt.1 (not_or.1 hl).1)
    refine ⟨rfl, _, rfl, .codeRead hr hd, ⟨hbytes, fun k => ?_, rfl, hopened⟩⟩
    rw [← getElem?_splice hle]
    exact congrArg (·[k]?) (spliceFrom_natCast ..)
  | read _ hr hw =>
    obtain ⟨i, hi, hle, rfl⟩ := Memory.writeRange_eq_ok_iff.1 hw
    obtain rfl : y.toNat = i := Int.ofNat.inj hi
    exact ⟨rfl, _, rfl, .read hr, ⟨Memory.getElem?_overwrite _ _ _ hle, hcode, rfl, hopened⟩⟩
  | written hr hw =>
    obtain ⟨i, n, hi, hn, hle, rfl, rfl⟩ := Memory.readRange_eq_ok_iff.1 hr
    obtain rfl : y.toNat = i := Int.ofNat.inj hi
    obtain rfl : z.toNat = n := Int.ofNat.inj hn
    have hoffered := Memory.slice_eq_take hle
    exact ⟨rfl, _, rfl, .written hle hoffered hw, ⟨hbytes, hcode, rfl, hopened⟩⟩
  | slept => exact ⟨rfl, _, rfl, .slept, ⟨hbytes, hcode, rfl, hopened⟩⟩

/-- **A system call does what it is asked for, and nothing else.** The arguments are the bytes that
`A`, `B` and `C` hold before the step, whatever the result register is. The step that succeeds
without an exit puts the result of the service into this register, and the bytes, instructions and
descriptors that the service has given into their places; `I` moves on, unless it takes the result.
No other register, cell, instruction or descriptor changes. -/
theorem sys_delivers (H : Host σ) (m : Machine b σ) {number : UInt8} {r : Register}
    (hf : m.fetch = .ok (.sys number (some r)))
    (hnew : ∀ path fd host, H.openFile path m.host = (.ok fd, host) → fd ∉ m.descriptors.keys)
    {snapshot : Snapshot} {m' : Machine b σ} (h : step H m = (.ok snapshot, m'))
    (hx : snapshot.exitCode = none) :
    ∃ s d, b.syscalls.get s = number ∧
      Serves H b m.memory.cells.toList m.host (m.registers.get .A) (m.registers.get .B)
        (m.registers.get .C) s d m'.host ∧
      m.Brings (m.registers.get .B).toNat d m' ∧
      byteValue (m'.registers.get r) = d.result ∧
      ∀ q, q ≠ r → m'.registers.get q =
        if q = .I then m.registers.get .I + 1 else m.registers.get q := by
  cases step_eq_iff.1 h with
  | exited => cases hx
  | done _ hf' he =>
    cases hf.symm.trans hf'
    obtain ⟨f, -, hr⟩ | ⟨v, m1, hc, hw⟩ := execute_sys_cases he
    · cases hr
    obtain ⟨x, rfl, rfl⟩ := writeOperand_eq_ok_iff.1 hw
    obtain ⟨-, hv, -⟩ | ⟨s, hn, hc⟩ := dispatch_cases hc
    · cases hv
    rw [get_begun m _ (by decide), get_begun m _ (by decide), get_begun m _ (by decide)] at hc
    obtain ⟨hregs, d, hd, hs, hb⟩ := hc.serves hnew
    refine ⟨s, d, Syscall.ofCode?_byteValue_iff.1 hn, hs,
      ⟨hb.memory, hb.program, hb.stack, hb.descriptors⟩, ?_, fun q hq => ?_⟩
    · rw [hd]
      exact congrArg byteValue (RegisterFile.get_set_self m1.registers r x)
    · have hset : (m1.registers.set r x).get q = m1.registers.get q :=
        RegisterFile.get_set_ne m1.registers x hq
      have hI : m1.registers.get q = (m.registers.set .I (m.registers.get .I + 1)).get q :=
        congrArg (fun rf => rf.get q) hregs
      exact hset.trans (hI.trans (RegisterFile.get_set ..))

/-- A machine about to read three bytes to the cell 5 from a stream of two, with the count going
into the register that says where to. -/
def reading : Machine .standard Simulated :=
  { fresh .standard [.sys 0x10 (some .B)] (.ofSize .main 16) false
      { Simulated.empty with
        streams := Simulated.empty.streams.insert 0 ⟨[7, 8], none, none, none, none⟩ } with
    registers := ((RegisterFile.zero .standard).set .B 5).set .C 3 }

theorem reading_short :
    ∃ snapshot m', step Simulated.host reading = (.ok snapshot, m') ∧ snapshot.exitCode = none ∧
      byteValue (m'.registers.get .B) = 2 ∧ m'.registers.get .C = 3 ∧
      m'.memory.cells[5]? = some 7 ∧ m'.memory.cells[6]? = some 8 ∧
      m'.memory.cells[7]? = some 0 := by
  have hf : reading.fetch = .ok (.sys 0x10 (some .B)) := fetch_eq_ok_iff.2 (by decide +kernel)
  have he : (step Simulated.host reading).1.toOption.map Snapshot.exitCode = some none := by
    decide +kernel
  have hd : (Simulated.host.read (byteValue (reading.registers.get .A))
      (byteValue (reading.registers.get .C)) reading.host).1.toOption = some [7, 8] := by
    decide +kernel
  cases hs : step Simulated.host reading with
  | mk q m' =>
    rw [hs] at he
    cases q with
    | error f => cases he
    | ok snapshot =>
      have hx : snapshot.exitCode = none := Option.some.inj he
      obtain ⟨s, d, hn, hserves, hb, hr, hq⟩ := sys_delivers Simulated.host reading hf
        (fun _ _ _ _ => List.not_mem_nil) hs hx
      obtain rfl : s = .readMemory := Bindings.standard.syscalls_distinct.get_injective hn
      cases hserves with
      | read hread =>
        rw [hread] at hd
        cases hd
        exact ⟨snapshot, m', rfl, hx, hr, (hq .C (by decide)).trans (by decide +kernel),
          (hb.memory 5).trans (by decide +kernel), (hb.memory 6).trans (by decide +kernel),
          (hb.memory 7).trans (by decide +kernel)⟩

end Yan85.Machine
