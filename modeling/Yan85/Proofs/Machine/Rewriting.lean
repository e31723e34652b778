import Yan85.Proofs.Machine.Refusals
import Yan85.Proofs.Machine.Runs
import Yan85.Proofs.Machine.Services

/-! # How a program changes while it runs

* `length_splice`, `splice_append`: what comes of a program when instructions are put into it.
* `GivesCode H m x y z code`: the system call that reads instructions, made in the state `m`,
  succeeds with `code`.
* `Rewrites H m start code`: the next step of `m` makes this call, for a place from `start` on, and
  the call succeeds with `code`.
* `rewritten_next`: a step either puts the instructions into the program or leaves it alone.
* `step_readCode_iff`, `step_of_misplaced`: where a step that makes the call succeeds, and where it
  does not come as far as to ask the host.
* `Grows m m'`: the program of `m'` is no shorter, and within what a byte can address.
* `program_evolves`: what becomes of the program in a step and in many.
-/

namespace Yan85.Machine
set_option autoImplicit false

variable {b : Bindings} {σ : Type} {H : Host σ} {m m' : Machine b σ}
variable {x y z : UInt8} {start : Nat} {code : List Instruction}

/-! ## Programs with some instructions replaced -/

theorem length_splice {program : List Instruction} (h : start ≤ program.length)
    (code : List Instruction) :
    (splice program start code).length = max program.length (start + code.length) := by
  have ht : (program.take start).length = start := List.length_take_of_le h
  unfold splice
  rw [List.length_append, List.length_append, ht, List.length_drop]
  omega

theorem splice_nil (program : List Instruction) (start : Nat) :
    splice program start [] = program := by
  unfold splice
  rw [List.append_nil, List.length_nil, Nat.add_zero, List.take_append_drop]

/-- What is put behind instructions that were put into a program goes on where they end. -/
theorem splice_append {program : List Instruction} (h : start ≤ program.length)
    (code code' : List Instruction) :
    splice (splice program start code) (start + code.length) code' =
      splice program start (code ++ code') := by
  have hlen := length_splice h code
  apply List.ext_getElem?
  intro k
  have hin : (fun j => (splice program start code)[j]?) =
      overlaid start code fun j => program[j]? := funext (getElem?_splice h code)
  rw [getElem?_splice (by omega), hin, overlaid_append, getElem?_splice h]

/-! ## The call -/

/-- The call for instructions with the arguments `x`, `y` and `z`, made in the state `m`, succeeds
with `code`. There is a place for as many instructions as it asks for, the host gives data for the
read that decode to `code`, and there is a place for `code` too. -/
structure GivesCode (H : Host σ) (m : Machine b σ) (x y z : UInt8) (code : List Instruction) :
    Prop where
  behind : y.toNat ≤ m.program.length
  within : y.toNat + z.toNat ≤ addressSpaceSize
  decoded : ∃ data s, H.read (byteValue x) (byteValue z * instructionSize) m.host = (.ok data, s) ∧
    decodeProgram b data = .ok code
  fits : y.toNat + code.length ≤ addressSpaceSize

theorem GivesCode.answer {r : Except HostFailure (List UInt8)} {s : σ}
    (h : GivesCode H m x y z code)
    (hr : H.read (byteValue x) (byteValue z * instructionSize) m.host = (r, s)) :
    ∃ data, r = .ok data ∧ decodeProgram b data = .ok code := by
  obtain ⟨data, s', hr', hd⟩ := h.decoded
  cases hr.symm.trans hr'
  exact ⟨data, rfl, hd⟩

theorem GivesCode.unique {code' : List Instruction} (h : GivesCode H m x y z code)
    (h' : GivesCode H m x y z code') : code' = code := by
  obtain ⟨data, s, hr, hd⟩ := h.decoded
  obtain ⟨data', ⟨⟩, hd'⟩ := h'.answer hr
  cases hd.symm.trans hd'
  rfl

theorem misplaced_iff {n : Nat} :
    m.Misplaced (byteValue y) n ↔
      m.program.length < y.toNat ∨ addressSpaceSize < y.toNat + n := by
  have hy : byteValue y = (y.toNat : Int) := rfl
  unfold Misplaced
  omega

theorem readCode_of_misplaced {fd first count : Int} (h : m.Misplaced first count) :
    readCode H fd first count m = (.error (.placementOutside count first m.program.length), m) :=
  Action.bind_apply_error (checkPlacement_of_misplaced h)

/-- A system call changes the program only where it is the one for instructions and succeeds. -/
theorem Calls.program_cases {s : Syscall} {r : Except Fault Int}
    (h : Calls H m (byteValue x) (byteValue y) (byteValue z) s r m') :
    (∃ code, s = .readCode ∧ GivesCode H m x y z code ∧ r = .ok code.length ∧
      m'.program = splice m.program y.toNat code) ∨
    (s = .readCode → (∀ code, ¬ GivesCode H m x y z code) ∧ ∃ f, r = .error f) ∧
      m'.program = m.program := by
  cases h with
  | codeRead hp hr hd hl =>
    have hasked := not_or.1 (mt (misplaced_iff (n := z.toNat)).2 hp)
    have hgiven := not_or.1 (mt misplaced_iff.2 hl)
    exact .inl ⟨_, rfl, ⟨Nat.le_of_not_lt hasked.1, Nat.le_of_not_lt hasked.2, ⟨_, _, hr, hd⟩,
      Nat.le_of_not_lt hgiven.2⟩, rfl, spliceFrom_natCast ..⟩
  | codeMisplaced hp =>
    refine .inr ⟨fun _ => ⟨fun code hg => ?_, _, rfl⟩, rfl⟩
    exact not_misplaced hg.behind hg.within hp
  | codeRefused _ hr =>
    refine .inr ⟨fun _ => ⟨fun code hg => ?_, _, rfl⟩, rfl⟩
    obtain ⟨data, ⟨⟩, -⟩ := hg.answer hr
  | codeUndecoded _ hr hd =>
    refine .inr ⟨fun _ => ⟨fun code hg => ?_, _, rfl⟩, rfl⟩
    obtain ⟨data, ⟨⟩, hd'⟩ := hg.answer hr
    cases hd.symm.trans hd'
  | codeTooLong _ hr hd hl =>
    refine .inr ⟨fun _ => ⟨fun code hg => ?_, _, rfl⟩, rfl⟩
    obtain ⟨data, ⟨⟩, hd'⟩ := hg.answer hr
    cases hd.symm.trans hd'
    have hout := misplaced_iff.1 hl
    have hbehind := hg.behind
    have hfits := hg.fits
    omega
  | _ => exact .inr ⟨nofun, rfl⟩

/-! ## The instruction -/

theorem tolerant_program :
    Tolerant (fun m m' : Machine b σ => m'.program = m.program) where
  refl := fun _ => rfl
  trans := fun h h' => h'.trans h
  registers := fun _ _ => rfl
  memory := fun _ _ _ => rfl
  stack := fun _ _ _ _ => rfl
  called := fun _ _ _ _ _ => rfl

/-- The next step makes the call for instructions, for a place from `start` on, and the call
succeeds with `code`. -/
structure Rewrites (H : Host σ) (m : Machine b σ) (start : Nat) (code : List Instruction) :
    Prop where
  asks : m.Asks .readCode
  start_eq : start = (m.registers.get .B).toNat
  gives : GivesCode H m (m.registers.get .A) (m.registers.get .B) (m.registers.get .C) code

/-- The program is that of `m` with the instructions that the next step reads, if it reads any. -/
def Rewritten (H : Host σ) (m : Machine b σ) (program : List Instruction) : Prop :=
  (∃ start code, Rewrites H m start code ∧ program = splice m.program start code) ∨
  (∀ start code, ¬ Rewrites H m start code) ∧ program = m.program

theorem givesCode_begun_iff (i : Instruction) (q : Syscall) (x' y' z' : Int) :
    GivesCode H ((m.begun i).tell (.called q x' y' z')) x y z code ↔ GivesCode H m x y z code :=
  ⟨fun h => ⟨h.behind, h.within, h.decoded, h.fits⟩,
    fun h => ⟨h.behind, h.within, h.decoded, h.fits⟩⟩

/-- What the call does to the program, told from the state before the step that makes it. -/
theorem call_program_cases {number : UInt8} {result : Operand} {r : Except Fault Int}
    (hx : m.exitCode = none) (hf : m.fetch = .ok (.sys number result))
    (h : call H number (m.begun (.sys number result)) = (r, m')) :
    (∃ start code, Rewrites H m start code ∧ r = .ok code.length ∧
      m'.program = splice m.program start code) ∨
    (∀ start code, ¬ Rewrites H m start code) ∧ (m.Asks .readCode → ∃ f, r = .error f) ∧
      m'.program = m.program := by
  have hnumber {s : Syscall} (ha : m.Asks s) : b.syscalls.get s = number := by
    obtain ⟨-, result', hf'⟩ := ha
    cases hf.symm.trans hf'
    rfl
  obtain ⟨hn, rfl, rfl⟩ | ⟨s, hn, hc⟩ := dispatch_cases h
  · have ha : ¬ m.Asks .readCode := fun ha => by
      rw [← hnumber ha, Syscall.ofCode?_byteValue_iff.2 rfl] at hn
      cases hn
    exact .inr ⟨fun start code hr => ha hr.asks, fun ha' => absurd ha' ha, rfl⟩
  · obtain rfl := Syscall.ofCode?_byteValue_iff.1 hn
    -- Fetching moves only `I`, so the arguments of the call are those in the registers of `m`.
    rw [get_begun m _ (by decide), get_begun m _ (by decide), get_begun m _ (by decide)] at hc
    obtain ⟨code, rfl, hg, rfl, hp⟩ | ⟨hg, hp⟩ := hc.program_cases
    · exact .inl ⟨_, code, ⟨⟨hx, result, hf⟩, rfl, (givesCode_begun_iff ..).1 hg⟩, rfl, hp⟩
    · have hs (ha : m.Asks .readCode) : s = .readCode :=
        (b.syscalls_distinct.get_injective (hnumber ha)).symm
      refine .inr ⟨fun start code hr => ?_, fun ha => (hg (hs ha)).2, hp⟩
      exact (hg (hs hr.asks)).1 code ((givesCode_begun_iff ..).2 hr.gives)

theorem execute_rewritten {i : Instruction} {r : Except Fault Unit} (hx : m.exitCode = none)
    (hf : m.fetch = .ok i) (h : execute H i (m.begun i) = (r, m')) : Rewritten H m m'.program := by
  by_cases hs : ∃ number result, i = .sys number result
  · obtain ⟨number, result, rfl⟩ := hs
    obtain ⟨f, hc, -⟩ | ⟨v, m1, hc, hw⟩ := execute_sys_cases h
    · obtain ⟨start, code, -, hr, -⟩ | ⟨hn, -, hp⟩ := call_program_cases hx hf hc
      · cases hr
      · exact .inr ⟨hn, hp⟩
    · have hp' : m'.program = m1.program := by
        have hw' := tolerant_program.closed.writeOperand result v m1
        rw [hw] at hw'
        exact hw'
      obtain ⟨start, code, hr, -, hp⟩ | ⟨hn, -, hp⟩ := call_program_cases hx hf hc
      · exact .inl ⟨start, code, hr, hp'.trans hp⟩
      · exact .inr ⟨hn, hp'.trans hp⟩
  · have hp := execute_of_closed tolerant_program.closed H (i := i)
      (fun number result hi => absurd ⟨number, result, hi⟩ hs) (fun _ _ => rfl) (m.begun i)
    rw [h] at hp
    refine .inr ⟨fun start code hr => ?_, hp⟩
    obtain ⟨-, result, hf'⟩ := hr.asks
    exact hs ⟨_, result, Except.ok.inj (hf.symm.trans hf')⟩

/-! ## The step -/

theorem rewritten_next (H : Host σ) (m : Machine b σ) : Rewritten H m (next H m).program := by
  refine next_of_steps (P := fun m' => Rewritten H m m'.program) fun r m' hs => ?_
  cases hs with
  | halted hx =>
    refine .inr ⟨fun start code hr => ?_, rfl⟩
    cases hx.symm.trans hr.asks.running
  | unfetched _ hf =>
    refine .inr ⟨fun start code hr => ?_, rfl⟩
    obtain ⟨-, result, hf'⟩ := hr.asks
    cases hf.symm.trans hf'
  | done hx hf he | exited hx hf he | failed hx hf he =>
    have hr := execute_rewritten hx hf he
    exact hr

theorem Rewrites.unique {start' : Nat} {code' : List Instruction} (h : Rewrites H m start code)
    (h' : Rewrites H m start' code') : start' = start ∧ code' = code :=
  ⟨h'.start_eq.trans h.start_eq.symm, h.gives.unique h'.gives⟩

theorem Rewrites.program_eq (h : Rewrites H m start code) :
    (next H m).program = splice m.program start code := by
  obtain ⟨start', code', hr, hp⟩ | ⟨hn, -⟩ := rewritten_next H m
  · obtain ⟨rfl, rfl⟩ := h.unique hr
    exact hp
  · exact absurd h (hn start code)

theorem Rewrites.start_le (h : Rewrites H m start code) : start ≤ m.program.length := by
  rw [h.start_eq]
  exact h.gives.behind

theorem program_eq_of_not_rewrites (h : ∀ start code, ¬ Rewrites H m start code) :
    (next H m).program = m.program := by
  obtain ⟨start, code, hr, -⟩ | ⟨-, hp⟩ := rewritten_next H m
  · exact absurd hr (h start code)
  · exact hp

section Success

variable {r : Register}

theorem rewrites_of_step {snapshot : Snapshot}
    (hf : m.fetch = .ok (.sys (b.syscalls.get .readCode) (some r)))
    (h : step H m = (.ok snapshot, m')) :
    ∃ start code, Rewrites H m start code ∧ code.length ≤ 0xFF := by
  cases step_eq_iff.1 h with
  | done hx hf' he =>
    cases hf.symm.trans hf'
    obtain ⟨f, -, hr⟩ | ⟨v, m1, hc, hw⟩ := execute_sys_cases he
    · cases hr
    obtain ⟨x, rfl, -⟩ := writeOperand_eq_ok_iff.1 hw
    obtain ⟨start, code, hr, hv, -⟩ | ⟨-, hn, -⟩ := call_program_cases hx hf hc
    · have hlt := x.toNat_lt
      have hlen : x.toNat = code.length := Int.ofNat.inj (Except.ok.inj hv)
      exact ⟨start, code, hr, by omega⟩
    · obtain ⟨f, hr⟩ := hn ⟨hx, some r, hf⟩
      cases hr
  | exited _ hf' he =>
    -- An exit is another call.
    obtain ⟨result, rfl, -⟩ := exit_of_execute he
    injection hf.symm.trans hf' with hi
    injection hi with hn
    cases b.syscalls_distinct.get_injective hn

theorem Rewrites.step_ok (h : Rewrites H m start code)
    (hf : m.fetch = .ok (.sys (b.syscalls.get .readCode) (some r))) (hlen : code.length ≤ 0xFF) :
    ∃ snapshot, (step H m).1 = .ok snapshot := by
  have hx : m.exitCode = none := h.asks.running
  cases hc : call H (b.syscalls.get .readCode) (m.begun (.sys _ (some r))) with
  | mk q m1 =>
    obtain ⟨start', code', h', rfl, -⟩ | ⟨hn, -⟩ := call_program_cases hx hf hc
    · obtain ⟨rfl, rfl⟩ := h.unique h'
      have hv : (code'.length : Int) = byteValue (UInt8.ofNat code'.length) :=
        congrArg Int.ofNat (Nat.mod_eq_of_lt (Nat.lt_succ_of_le hlen)).symm
      have hw := writeOperand_byte r (UInt8.ofNat code'.length) m1
      rw [← hv] at hw
      have he := (Action.bind_apply_ok hc).trans hw
      exact ⟨_, congrArg Prod.fst (Steps.done hx hf he).step_eq⟩
    · exact absurd h (hn start code)

/-- The step that makes the call succeeds if the call does and the number of the instructions is a
byte. -/
theorem step_readCode_iff (hf : m.fetch = .ok (.sys (b.syscalls.get .readCode) (some r))) :
    (∃ snapshot, (step H m).1 = .ok snapshot) ↔
      ∃ start code, Rewrites H m start code ∧ code.length ≤ 0xFF := by
  constructor
  · rintro ⟨snapshot, h⟩
    exact rewrites_of_step hf (Prod.ext h rfl)
  · rintro ⟨start, code, h, hlen⟩
    exact h.step_ok hf hlen

end Success

/-- A call that asks for more than there is a place for fails and leaves the program alone. -/
theorem step_of_misplaced (ha : m.Asks .readCode)
    (h : m.Misplaced (byteValue (m.registers.get .B)) (byteValue (m.registers.get .C))) :
    Raises H m .outOfBounds ∧ (next H m).program = m.program := by
  obtain ⟨hx, result, hf⟩ := ha
  constructor
  · have hc : (perform H .readCode (byteValue (m.registers.get .A))
        (byteValue (m.registers.get .B)) (byteValue (m.registers.get .C))
        (m.calling (.sys (b.syscalls.get .readCode) result) .readCode)).1 =
          .error (.placementOutside (byteValue (m.registers.get .C))
            (byteValue (m.registers.get .B)) m.program.length) :=
      congrArg Prod.fst (readCode_of_misplaced (m := m.calling _ _) h)
    exact ⟨_, step_of_call hx hf hc (by simp [Fault.kind]), rfl⟩
  · exact program_eq_of_not_rewrites fun start code hr =>
      not_misplaced hr.gives.behind hr.gives.within h

/-! ## Runs -/

/-- The program of `m'` is no shorter than that of `m`, and no longer than this or than what a byte
can address. -/
structure Grows (m m' : Machine b σ) : Prop where
  least : m.program.length ≤ m'.program.length
  most : m'.program.length ≤ max m.program.length addressSpaceSize

theorem Grows.trans {m'' : Machine b σ} (h : m.Grows m') (h' : m'.Grows m'') : m.Grows m'' := by
  have hleast := h.least
  have hleast' := h'.least
  have hmost := h.most
  have hmost' := h'.most
  exact ⟨by omega, by omega⟩

theorem grows_next (H : Host σ) (m : Machine b σ) : m.Grows (next H m) := by
  obtain ⟨start, code, hr, hp⟩ | ⟨-, hp⟩ := rewritten_next H m
  · have hl := length_splice hr.start_le code
    rw [← hp] at hl
    have hfits : start + code.length ≤ addressSpaceSize := by
      rw [hr.start_eq]
      exact hr.gives.fits
    exact ⟨by omega, by omega⟩
  · have hl := congrArg List.length hp
    exact ⟨by omega, by omega⟩

theorem grows_after (H : Host σ) (n : Nat) (m : Machine b σ) : m.Grows (after H n m) :=
  after_invariant (P := m.Grows) (fun m' h => h.trans (grows_next H m')) n
    ⟨Nat.le_refl _, Nat.le_max_left ..⟩

theorem program_after_eq {n : Nat}
    (h : ∀ k < n, ∀ start code, ¬ Rewrites H (after H k m) start code) :
    (after H n m).program = m.program := by
  induction n with
  | zero => rfl
  | succ n ih =>
    have hlast := program_eq_of_not_rewrites (h n (Nat.lt_succ_self n))
    rw [after_succ', hlast]
    exact ih fun k hk => h k (Nat.lt_succ_of_lt hk)

/-- **A program changes only where a call for instructions succeeds.** For a machine in any state,
on any host:
* Where the next step makes the call and the call succeeds with `code`, its place `start` is not
  beyond the program, the new program reaches as far as the old one and as `code`, and it is `code`
  from `start` on and the old program everywhere else. This is so also where the step fails after
  the call, because the number of the instructions has no register to go to or is no byte.
* Otherwise the next step leaves the program alone. So does a step that asks for a place beyond the
  program, or beyond what a byte can address, and such a step fails.
* After any number of steps, of which any may have failed, the program is no shorter than from the
  start, and no longer than this or what a byte can address; it is the same if no call has
  succeeded. -/
theorem program_evolves (H : Host σ) (m : Machine b σ) :
    (∀ start code, Rewrites H m start code →
      start ≤ m.program.length ∧
      (next H m).program.length = max m.program.length (start + code.length) ∧
      ∀ k, (next H m).program[k]? = overlaid start code (fun j => m.program[j]?) k) ∧
    (∀ r, m.fetch = .ok (.sys (b.syscalls.get .readCode) (some r)) →
      ((∃ snapshot, (step H m).1 = .ok snapshot) ↔
        ∃ start code, Rewrites H m start code ∧ code.length ≤ 0xFF)) ∧
    ((∀ start code, ¬ Rewrites H m start code) → (next H m).program = m.program) ∧
    (m.Asks .readCode →
      m.program.length < (m.registers.get .B).toNat ∨
        addressSpaceSize < (m.registers.get .B).toNat + (m.registers.get .C).toNat →
      Raises H m .outOfBounds ∧ (next H m).program = m.program) ∧
    ∀ n, m.Grows (after H n m) ∧
      ((∀ k < n, ∀ start code, ¬ Rewrites H (after H k m) start code) →
        (after H n m).program = m.program) := by
  refine ⟨fun start code hr => ⟨hr.start_le, ?_, ?_⟩, fun r => step_readCode_iff,
    program_eq_of_not_rewrites, fun ha hm => step_of_misplaced ha (misplaced_iff.2 hm),
    fun n => ⟨grows_after H n m, program_after_eq⟩⟩
  · rw [hr.program_eq]
    exact length_splice hr.start_le code
  · rw [hr.program_eq]
    exact getElem?_splice hr.start_le code

/-- A machine about to read two instructions over the second of its two, from a stream that holds
them. -/
def extending : Machine .standard Simulated :=
  { fresh .standard [.sys 0x01 (some .D), .stk none none] (.ofSize .main 16) false
      { Simulated.empty with
        streams := Simulated.empty.streams.insert 0
          ⟨[0x80, 0x20, 5, 0x02, 0x20, 0x20], none, none, none, none⟩ } with
    registers := ((RegisterFile.zero .standard).set .B 1).set .C 2 }

/-- The second instruction is replaced, and a third one is added. -/
theorem extending_over_end :
    Rewrites Simulated.host extending 1 [.imm (some .A) 5, .sys 0x20 (some .A)] ∧
      (next Simulated.host extending).program =
        [.sys 0x01 (some .D), .imm (some .A) 5, .sys 0x20 (some .A)] := by
  have ha : extending.Asks .readCode :=
    ⟨by decide +kernel, some .D, fetch_eq_ok_iff.2 (by decide +kernel)⟩
  have hr : Rewrites Simulated.host extending 1 [.imm (some .A) 5, .sys 0x20 (some .A)] :=
    ⟨ha, by decide +kernel, by decide +kernel, by decide +kernel,
      ⟨[0x80, 0x20, 5, 0x02, 0x20, 0x20], _, Prod.ext (by decide +kernel) rfl, rfl⟩,
      by decide +kernel⟩
  obtain ⟨hrewrites, -⟩ := program_evolves Simulated.host extending
  obtain ⟨-, -, hentries⟩ := hrewrites _ _ hr
  refine ⟨hr, List.ext_getElem? fun k => (hentries k).trans ?_⟩
  have hold (j : Nat) : extending.program[j]? =
      [Instruction.sys 0x01 (some .D), .stk none none][j]? := rfl
  simp only [hold]
  match k with
  | 0 | 1 | 2 => rfl
  | k + 3 => simp [overlaid]

end Yan85.Machine
