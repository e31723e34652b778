import Yan85.Bindings.Standard
import Yan85.Host.Simulated
import Yan85.Proofs.Machine.Calls
import Yan85.Proofs.Memory.Strings

/-! # Opening a file

* `openFile_outside`: no path starts outside of the memory, and no host is asked for one.
* `openFile_of_refused`, `openFile_of_granted`, `openFile_of_tooHigh`, `openFile_of_stuck`: what the
  answers of the host to the path at an address come to.
* `openFile_accounts`: all of this for any memory, address and host, with the table of descriptors.
-/

namespace Yan85.Machine
set_option autoImplicit false

variable {b : Bindings} {σ : Type} {H : Host σ} {m : Machine b σ} {a : Nat} {path : List UInt8}
variable {fd : Nat} {e : HostFailure} {s s' : σ}

/-- The machine after its memory was read for the path at `a`, on a host in the state `s`. -/
def told (m : Machine b σ) (a : Nat) (path : List UInt8) (s : σ) : Machine b σ :=
  { m with memory := m.memory.recordAll a path .read, host := s }

theorem openFile_outside (h : m.memory.size ≤ a) (G : Host σ) :
    openFile G a m = (.error (.addressOutside a m.memory.extent), m) :=
  Action.bind_apply_error (onMemory_error (Memory.readString_of_le h))

theorem onMemory_readString (hp : m.memory.StringAt a path) :
    onMemory (fun mem => mem.readString a) m = (.ok path, m.told a path m.host) :=
  onMemory_ok (Memory.readString_stringAt_iff.2 ⟨a, rfl, hp, rfl⟩)

theorem onHost_told_ok {α : Type} {x : α} {request : σ → Except HostFailure α × σ}
    {blame : HostFailure → Fault} (h : request s = (.ok x, s')) :
    onHost request blame (m.told a path s) = (.ok x, m.told a path s') :=
  onHost_ok (m.told a path s) h

theorem onHost_told_error {α : Type} {request : σ → Except HostFailure α × σ}
    {blame : HostFailure → Fault} (h : request s = (.error e, s')) :
    onHost request blame (m.told a path s) = (.error (blame e), m.told a path s') :=
  onHost_error (m.told a path s) h

theorem openFile_of_refused (hp : m.memory.StringAt a path)
    (ho : H.openFile path m.host = (.error e, s)) :
    openFile H a m = (.error (.openFailed path e), m.told a path s) := by
  unfold openFile
  rw [Action.bind_apply_ok (onMemory_readString hp), Action.bind_apply_error (onHost_told_error ho)]

theorem openFile_of_granted (hp : m.memory.StringAt a path)
    (ho : H.openFile path m.host = (.ok fd, s)) (hfd : fd ≤ 0xFF) :
    openFile H a m = (.ok fd, { m.told a path s with
      descriptors := m.descriptors.insert fd path }.tell (.opened path fd)) := by
  unfold openFile
  rw [Action.bind_apply_ok (onMemory_readString hp), Action.bind_apply_ok (onHost_told_ok ho),
    if_neg (by omega)]
  rfl

theorem openFile_of_tooHigh (hp : m.memory.StringAt a path)
    (ho : H.openFile path m.host = (.ok fd, s)) (hfd : 0xFF < fd)
    (hc : H.close fd s = (.ok (), s')) :
    openFile H a m = (.error (.descriptorOverflow fd), m.told a path s') := by
  unfold openFile
  rw [Action.bind_apply_ok (onMemory_readString hp), Action.bind_apply_ok (onHost_told_ok ho),
    if_pos hfd, Action.bind_apply_ok (onHost_told_ok hc)]
  rfl

theorem openFile_of_stuck (hp : m.memory.StringAt a path)
    (ho : H.openFile path m.host = (.ok fd, s)) (hfd : 0xFF < fd)
    (hc : H.close fd s = (.error e, s')) :
    openFile H a m = (.error (.closeFailed e), m.told a path s') := by
  unfold openFile
  rw [Action.bind_apply_ok (onMemory_readString hp), Action.bind_apply_ok (onHost_told_ok ho),
    if_pos hfd, Action.bind_apply_error (onHost_told_error hc)]

/-- Opening fails and leaves the table alone, or adds a descriptor to it. -/
theorem openFile_cases (H : Host σ) (hp : m.memory.StringAt a path) :
    (∃ f s, openFile H a m = (.error f, m.told a path s)) ∨
    ∃ fd s, openFile H a m = (.ok (fd : Nat), { m.told a path s with
      descriptors := m.descriptors.insert fd path }.tell (.opened path fd)) := by
  rcases ho : H.openFile path m.host with ⟨e | fd, s⟩
  · exact .inl ⟨_, s, openFile_of_refused hp ho⟩
  · by_cases hfd : fd ≤ 0xFF
    · exact .inr ⟨fd, s, openFile_of_granted hp ho hfd⟩
    · have hfd' : 0xFF < fd := by omega
      rcases hc : H.close fd s with ⟨e | u, s'⟩
      · exact .inl ⟨_, s', openFile_of_stuck hp ho hfd' hc⟩
      · exact .inl ⟨_, s', openFile_of_tooHigh hp ho hfd' hc⟩

/-- **Opening takes exactly the string at its address, and accounts for the descriptor.** For every
memory, address and host:
* Outside of the memory there is no path; no host is asked, and nothing changes.
* Elsewhere there is one string, with or without an end, of any bytes but zero. It is the path that
  the host is asked for, and its cells are recorded as read, in their order.
* A descriptor that is a byte is the result, and the table has it under this path and is otherwise
  as before.
* A descriptor that is no byte is closed again and refused; a refusal of the host comes out with its
  number. After a failure the table is as before. -/
theorem openFile_accounts (H : Host σ) (m : Machine b σ) (a : Nat) :
    (m.memory.size ≤ a →
      ∀ G : Host σ, openFile G a m = (.error (.addressOutside a m.memory.extent), m)) ∧
    (a < m.memory.size → ∃ path, m.memory.StringAt a path) ∧
    ∀ path, m.memory.StringAt a path →
      ((openFile H a m).2.memory.cells = m.memory.cells ∧
        (openFile H a m).2.memory.log = m.memory.log ++
          path.mapIdx fun k x => ⟨m.memory.space, a + k, x, .read⟩) ∧
      (∀ fd s, H.openFile path m.host = (.ok fd, s) → fd ≤ 0xFF →
        (openFile H a m).1 = .ok fd ∧ (openFile H a m).2.host = s ∧
        (∀ d, (openFile H a m).2.descriptors.find? d =
          if d = fd then some path else m.descriptors.find? d) ∧
        (fd ∉ m.descriptors.keys →
          (openFile H a m).2.descriptors.entries = m.descriptors.entries ++ [(fd, path)])) ∧
      (∀ fd s s', H.openFile path m.host = (.ok fd, s) → 0xFF < fd →
        H.close fd s = (.ok (), s') →
        (openFile H a m).1 = .error (.descriptorOverflow fd) ∧ (openFile H a m).2.host = s') ∧
      (∀ e s, H.openFile path m.host = (.error e, s) →
        (openFile H a m).2.host = s ∧ ∃ f, (openFile H a m).1 = .error f ∧
          f.kind = .hostIo ∧ f.hostNumber? = some e.number) ∧
      ∀ f, (openFile H a m).1 = .error f → (openFile H a m).2.descriptors = m.descriptors := by
  refine ⟨openFile_outside, Memory.exists_stringAt_iff.2, fun path hp => ?_⟩
  refine ⟨?_, fun fd s ho hfd => ?_, fun fd s s' ho hfd hc => ?_, fun e s ho => ?_, fun f hf => ?_⟩
  · rcases openFile_cases H hp with ⟨f, s, h⟩ | ⟨fd, s, h⟩
    · rw [h]
      exact ⟨rfl, rfl⟩
    · rw [h]
      exact ⟨rfl, rfl⟩
  · rw [openFile_of_granted hp ho hfd]
    exact ⟨rfl, rfl, fun d => Ordered.find?_insert m.descriptors fd d path,
      fun hn => Ordered.entries_insert path hn⟩
  · rw [openFile_of_tooHigh hp ho hfd hc]
    exact ⟨rfl, rfl⟩
  · rw [openFile_of_refused hp ho]
    exact ⟨rfl, _, rfl, rfl, rfl⟩
  · rcases openFile_cases H hp with ⟨g, s, h⟩ | ⟨fd, s, h⟩
    · rw [h]
      rfl
    · rw [h] at hf
      cases hf

/-- Two cells with bytes that are no well-formed text and no zero behind them, and a host with a
file of this path. -/
def unended : Machine .standard Simulated :=
  fresh .standard [] { Memory.ofSize .main 2 with cells := #[0xFF, 0x66] } false
    { Simulated.empty with files := .ofList [([0xFF, 0x66], default)] }

theorem unended_opens :
    unended.memory.StringAt 0 [0xFF, 0x66] ∧
    (openFile Simulated.host 0 unended).1 = .ok 3 ∧
    (openFile Simulated.host 0 unended).2.descriptors.find? 3 = some [0xFF, 0x66] ∧
    (openFile Simulated.host 2 unended).1 = .error (.addressOutside 2 unended.memory.extent) := by
  have hp : unended.memory.StringAt 0 [0xFF, 0x66] := Memory.stringAt_slice (by decide)
  have ho : Simulated.host.openFile [0xFF, 0x66] unended.host = (.ok 3, _) := rfl
  obtain ⟨-, -, hpath⟩ := openFile_accounts Simulated.host unended 0
  obtain ⟨-, hgranted, -⟩ := hpath _ hp
  obtain ⟨hr, -, hd, -⟩ := hgranted 3 _ ho (by decide)
  obtain ⟨hout, -⟩ := openFile_accounts Simulated.host unended 2
  refine ⟨hp, hr, (hd 3).trans (if_pos rfl), ?_⟩
  exact congrArg Prod.fst (hout (by decide) Simulated.host)

end Yan85.Machine
