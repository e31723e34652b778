import Yan85.Bindings.Standard
import Yan85.Host.Simulated
import Yan85.Proofs.Codec.RoundTrip
import Yan85.Proofs.Machine.Twins

/-! # Execution does not depend on the encoding

* `reread b p`: the program that is left of `p` once it has been written and read back.
* `prepared b program rf memory stack host`: a machine before its first step whose registers, memory
  and stack have any contents.
* `encoding_irrelevant`: the same program under two encodings that share their flags and system calls
  runs alike, until code is read.
-/

namespace Yan85
set_option autoImplicit false

variable {b b' : Bindings}

/-! ## Loading -/

/-- Writes a program and reads it back. -/
def reread (b : Bindings) (p : List Instruction) : Except Fault (List Instruction) := do
  decodeProgram b (← encodeProgram b p)

theorem reread_of_proper (hw : b.layout.isWhole = true) {p : List Instruction}
    (hp : ∀ i ∈ p, i.IsProper) : reread b p = .ok p := by
  have hk : ∀ i ∈ p, i.HasKind := by
    rintro i hi rfl
    exact absurd (hp _ hi) (by decide)
  obtain ⟨data, he, hl, hd⟩ := decodeTriples_of_encodeProgram hw hk
  have hr : decodeProgram b data = .ok p := by
    unfold decodeProgram
    rw [hl, Nat.mul_mod_right, if_pos rfl, hd, mapM_verified_of_proper hp]
  unfold reread
  rw [he]
  exact hr

namespace Machine

variable {σ : Type}

/-- A machine before its first step, with any contents of registers, memory and stack. -/
def prepared (b : Bindings) (program : List Instruction) (rf : RegisterFile b) (memory : Memory)
    (stack : Stack) (host : σ) : Machine b σ :=
  { fresh b program memory stack.wraps host with registers := rf, stack := stack }

theorem twins_prepared (program : List Instruction) {rf : RegisterFile b} {rf' : RegisterFile b'}
    (hr : ∀ r, rf'.get r = rf.get r) (memory : Memory) (stack : Stack) (host : σ) :
    Twins Eq False (prepared b program rf memory stack host)
      (prepared b' program rf' memory stack host) where
  program := rfl
  registers := hr
  memory := rfl
  stack := rfl
  wraps := .inl rfl
  descriptors := rfl
  host := rfl
  steps := rfl
  exitCode := rfl
  observed := rfl
  diagnostics := rfl

/-! ## Two encodings -/

/-- **Execution does not depend on the encoding.** Take two encodings with whole layouts that agree on
the flags and the system calls; their registers, operations and layouts may be any. A program with all
registers that it needs can be loaded under both. From the same contents of the named registers,
memory and stack and the same host, every step ends alike under both, and leaves the same contents and
the same host, as long as no code is read. -/
theorem encoding_irrelevant (hb : b.SameMeaning b') (hw : b.layout.isWhole = true)
    (hw' : b'.layout.isWhole = true) (H : Host σ) {p : List Instruction}
    (hp : ∀ i ∈ p, i.IsProper) {rf : RegisterFile b} {rf' : RegisterFile b'}
    (hr : ∀ r, rf'.get r = rf.get r) (memory : Memory) (stack : Stack) (host : σ) :
    ∃ q q', reread b p = .ok q ∧ reread b' p = .ok q' ∧ ∀ n,
      (∀ k < n, ¬ (after H k (prepared b q rf memory stack host)).ReadsCode) →
      outcomes H n (prepared b' q' rf' memory stack host) =
        outcomes H n (prepared b q rf memory stack host) ∧
      Twins Eq False (after H n (prepared b q rf memory stack host))
        (after H n (prepared b' q' rf' memory stack host)) := by
  refine ⟨p, p, reread_of_proper hw hp, reread_of_proper hw' hp, fun n hn => ?_⟩
  have ht := twins_prepared p hr memory stack host
  have hd : ∀ k < n, (after H k (prepared b p rf memory stack host)).ReadsCode →
      decodeProgram b' = decodeProgram b := fun k hk hc => absurd hc (hn k hk)
  exact ht.after hb (.refl H) n hd False.elim

/-! ## An encoding with everything moved -/

def movedRegisters : Table Register UInt8 :=
  ⟨⟨[(.F, 0x80), (.I, 0x40), (.S, 0x20), (.D, 0x10), (.C, 0x08), (.B, 0x04), (.A, 0x02)],
    by decide⟩, by intro a; cases a <;> decide⟩

def movedOpcodes : Table Mnemonic UInt8 :=
  ⟨⟨[(.sys, 0), (.jmp, 1), (.cmp, 2), (.ldm, 3), (.stm, 4), (.stk, 5), (.add, 6), (.imm, 7)],
    by decide⟩, by intro a; cases a <;> decide⟩

def movedPlaces : Table Field Value :=
  ⟨⟨[(.op, .int 2), (.first, .int 0), (.second, .int 1)], by decide⟩,
    by intro a; cases a <;> decide⟩

/-- An encoding with the flags and the system calls of the standard one, and with other registers,
operations and places. -/
def moved : Bindings where
  registers := movedRegisters
  flags := Bindings.standard.flags
  syscalls := Bindings.standard.syscalls
  opcodes := movedOpcodes
  layout := ⟨movedPlaces, by decide⟩
  registers_distinct := by unfold Table.Distinct; decide
  registers_single r := by cases r <;> decide
  syscalls_distinct := Bindings.standard.syscalls_distinct
  opcodes_distinct := by unfold Table.Distinct; decide

/-- Pushes a byte that it has put into `A`, pops it into `B` and exits. -/
def carrying : List Instruction :=
  [.imm (some .A) 7, .stk (some .B) (some .A), .sys 0x20 (some .A)]

/-- The three steps of `carrying` end alike under the two encodings. -/
theorem carrying_alike :
    reread .standard carrying = .ok carrying ∧ reread moved carrying = .ok carrying ∧
    outcomes Simulated.host 3 (fresh moved carrying (.ofSize .main 256) false .empty) =
      outcomes Simulated.host 3 (fresh .standard carrying (.ofSize .main 256) false .empty) := by
  have hb : Bindings.standard.SameMeaning moved := ⟨fun _ => rfl, fun _ => rfl⟩
  have hp : ∀ i ∈ carrying, i.IsProper := by decide
  have hr : ∀ r, (RegisterFile.zero moved).get r = (RegisterFile.zero .standard).get r := by
    intro r
    rw [RegisterFile.get_zero, RegisterFile.get_zero]
  obtain ⟨q, q', hq, hq', h⟩ := encoding_irrelevant hb (by decide) (by decide) Simulated.host hp hr
    (.ofSize .main 256) (.fresh false) .empty
  obtain rfl := Except.ok.inj (hq.symm.trans (reread_of_proper (by decide) hp))
  obtain rfl := Except.ok.inj (hq'.symm.trans (reread_of_proper (by decide) hp))
  have hn : ∀ k < 3, ¬ (after Simulated.host k (fresh Bindings.standard carrying
      (.ofSize .main 256) false .empty)).ReadsCode := by decide +kernel
  exact ⟨hq, hq', (h 3 hn).1⟩

end Machine

end Yan85
