import Mathlib.Data.List.Range
import Yan85.Bindings.Standard
import Yan85.Host.Simulated
import Yan85.Proofs.Machine.Observations
import Yan85.Proofs.Results

/-! # Snapshots make a trace of the run

* `snapshots H n m`: the snapshots that `n` steps from `m` return, whatever steps fail between them.
* `Tells m s m'`: the snapshot `s` tells what the step from `m` to `m'` has carried out.
  `tells_of_step` says that this is so of every step that returns one.
* `breaksOff H m`: the next step of `m` fetches an instruction and fails on it. `steps_add_fetched`
  says that a step that fetches is counted or breaks off.
* `counts_snapshots`, `steps_add_fetches`: both for many steps.
* `Traced H n m`: the snapshots and the observer of `n` steps from a fresh machine tell of one run.
  `traced_fresh` says that they do.
-/

namespace Yan85
set_option autoImplicit false

theorem RegisterFile.lookup_toList {b : Bindings} (rf : RegisterFile b) (r : Register) :
    rf.toList.lookup r = some (rf.get r) := by
  cases r <;> rfl

namespace Machine

variable {b : Bindings} {σ : Type} {H : Host σ} {m m' : Machine b σ}

/-- The snapshots that `n` steps return. -/
def snapshots (H : Host σ) (n : Nat) (m : Machine b σ) : List Snapshot :=
  (outcomes H n m).filterMap Except.toOption

/-- The snapshot tells what the step from `m` to `m'` has carried out. -/
structure Tells (m : Machine b σ) (s : Snapshot) (m' : Machine b σ) : Prop where
  index : s.index = m.registers.get .I
  instruction : m.program[s.index.toNat]? = some s.instruction
  registers : s.registers = m'.registers.toList
  count : s.count = m.steps + 1
  steps : m'.steps = m.steps + 1

/-- Whether the next step fetches an instruction and fails on it. An exit is no failure. -/
def breaksOff (H : Host σ) (m : Machine b σ) : Bool :=
  match m.exitCode, m.fetch with
  | none, .ok i =>
    match (execute H i (m.begun i)).1 with
    | .ok _ => false
    | .error f => f.kind != .halt
  | _, _ => false

/-! ## One step -/

/-- The registers are those at the end, and the instruction is the one that was fetched: both also
where it has been overwritten meanwhile. -/
theorem tells_of_step {s : Snapshot} (h : step H m = (.ok s, m')) : Tells m s m' := by
  have hsteps := (counted_of_step h).2
  cases step_eq_iff.1 h with
  | done _ hf he | exited _ hf he =>
    exact {
      index := rfl
      instruction := fetch_eq_ok_iff.1 hf
      registers := rfl
      count := congrArg (· + 1) (execute_counted he).steps
      steps := hsteps }

theorem steps_of_failed {f : Fault} (h : step H m = (.error f, m')) : m'.steps = m.steps := by
  cases step_eq_iff.1 h with
  | halted | unfetched => rfl
  | failed _ _ he => exact (execute_counted he).steps

/-- A step that fetches an instruction is counted, or it breaks off. -/
theorem steps_add_fetched (H : Host σ) (m : Machine b σ) :
    m.steps + m.fetched.length = (next H m).steps + (breaksOff H m).toNat := by
  refine next_of_steps (P := fun m' =>
    m.steps + m.fetched.length = m'.steps + (breaksOff H m).toNat) fun r m' hs => ?_
  have hstep := hs.step_eq
  unfold fetched breaksOff
  cases hs with
  | halted hx =>
    rw [hx]
    rfl
  | unfetched hx hf =>
    rw [hx, hf]
    rfl
  | done hx hf he | exited hx hf he =>
    rw [hx, hf, (counted_of_step hstep).2]
    simp only [he]
    rfl
  | failed hx hf he hn =>
    have hk := bne_iff_ne.2 (not_halt.2 hn)
    rw [hx, hf, steps_of_failed hstep]
    simp only [he, hk]
    rfl

/-! ## Many steps -/

theorem getElem?_outcomes (H : Host σ) (n : Nat) (m : Machine b σ) (k : Nat) :
    (outcomes H n m)[k]? = if k < n then some (step H (after H k m)).1 else none := by
  induction n generalizing m k with
  | zero => simp [outcomes]
  | succ n ih =>
    cases k with
    | zero => simp [outcomes]
    | succ k =>
      rw [outcomes, List.getElem?_cons_succ, ih, after_succ]
      simp only [Nat.succ_lt_succ_iff]

theorem step_of_getElem?_outcomes {n k : Nat} {r : Except Fault Snapshot}
    (h : (outcomes H n m)[k]? = some r) : step H (after H k m) = (r, after H (k + 1) m) := by
  rw [getElem?_outcomes] at h
  split at h
  · rw [after_succ']
    exact Prod.ext (Option.some.inj h) rfl
  · cases h

/-- Failed steps return no snapshot and leave the number of steps alone. -/
theorem counts_snapshots (H : Host σ) (n : Nat) (m : Machine b σ) :
    (snapshots H n m).map (·.count) = List.range' (m.steps + 1) (snapshots H n m).length ∧
      (after H n m).steps = m.steps + (snapshots H n m).length := by
  induction n generalizing m with
  | zero => exact ⟨rfl, rfl⟩
  | succ n ih =>
    obtain ⟨hc, hs⟩ := ih (next H m)
    rw [after_succ]
    cases hstep : (step H m).1 with
    | error f =>
      have hcons : snapshots H (n + 1) m = snapshots H n (next H m) := by
        rw [snapshots, outcomes, hstep]
        rfl
      have hm : (next H m).steps = m.steps := steps_of_failed (Prod.ext hstep rfl)
      rw [hcons, ← hm]
      exact ⟨hc, hs⟩
    | ok s =>
      have hcons : snapshots H (n + 1) m = s :: snapshots H n (next H m) := by
        rw [snapshots, outcomes, hstep]
        rfl
      have ht : Tells m s (next H m) := tells_of_step (Prod.ext hstep rfl)
      rw [ht.steps] at hc hs
      rw [hcons, List.map_cons, List.length_cons, List.range'_succ, hc, ht.count, hs]
      exact ⟨rfl, by omega⟩

theorem steps_add_fetches (H : Host σ) (n : Nat) (m : Machine b σ) :
    m.steps + (fetches H n m).length =
      (after H n m).steps + (List.range n).countP fun k => breaksOff H (after H k m) := by
  induction n generalizing m with
  | zero => rfl
  | succ n ih =>
    have hstep := steps_add_fetched H m
    have hrest := ih (next H m)
    have hcount : (List.range (n + 1)).countP (fun k => breaksOff H (after H k m)) =
        (breaksOff H m).toNat +
          (List.range n).countP fun k => breaksOff H (after H k (next H m)) := by
      have htail : (fun k => breaksOff H (after H k m)) ∘ Nat.succ =
          fun k => breaksOff H (after H k (next H m)) := by
        funext k
        rw [Function.comp_apply, Nat.succ_eq_add_one, after_succ]
      rw [List.range_succ_eq_map, List.countP_cons, List.countP_map, htail, after_zero,
        Nat.add_comm]
      cases breaksOff H m <;> rfl
    rw [fetches, List.length_append, hcount, after_succ]
    omega

/-- What the snapshots and the observer tell of `n` steps from a fresh machine. -/
structure Traced (H : Host σ) (n : Nat) (m : Machine b σ) : Prop where
  /-- The snapshots are counted from one on, without a gap, whatever steps fail between them. -/
  counts : (snapshots H n m).map (·.count) = List.range' 1 (snapshots H n m).length
  steps : (after H n m).steps = (snapshots H n m).length
  tells : ∀ k s, (outcomes H n m)[k]? = some (.ok s) → Tells (after H k m) s (after H (k + 1) m)
  /-- Of two steps that succeed one after the other, the second stands where `I` was left. -/
  chains : ∀ k s s', (outcomes H n m)[k]? = some (.ok s) →
    (outcomes H n m)[k + 1]? = some (.ok s') → s.registers.lookup .I = some s'.index
  /-- The observer has been shown what was fetched, in order, and nothing else. -/
  observed : (after H n m).observed.toList = fetches H n m
  observed_size : (after H n m).observed.size =
    (after H n m).steps + (List.range n).countP fun k => breaksOff H (after H k m)

/-- **Snapshots make a trace of the run.** Whatever a fresh machine runs, on any host and with any
steps that fail, the snapshots that its steps return are counted from one on without a gap. Each
tells the place of `I` before its step, the instruction that stood there then, and the registers
after the step, from which the next snapshot takes its place. The observer has been shown the
instruction of each step that fetched one, in order, and so has been called once for every step that
was counted and once for every one that broke off. -/
theorem traced_fresh (H : Host σ) (n : Nat) (b : Bindings) (program : List Instruction)
    (memory : Memory) (wraps : Bool) (host : σ) :
    Traced H n (fresh b program memory wraps host) := by
  have hobserved : (after H n (fresh b program memory wraps host)).observed.toList =
      fetches H n (fresh b program memory wraps host) := observed_after H n _
  obtain ⟨hcounts, hsteps⟩ := counts_snapshots H n (fresh b program memory wraps host)
  have hlength := steps_add_fetches H n (fresh b program memory wraps host)
  exact {
    counts := hcounts
    steps := hsteps.trans (Nat.zero_add _)
    tells := fun k s h => tells_of_step (step_of_getElem?_outcomes h)
    chains := by
      intro k s s' h h'
      have hs := tells_of_step (step_of_getElem?_outcomes h)
      have hs' := tells_of_step (step_of_getElem?_outcomes h')
      rw [hs.registers, RegisterFile.lookup_toList, hs'.index]
    observed := hobserved
    observed_size := by
      rw [← Array.length_toList, hobserved, ← hlength]
      exact (Nat.zero_add _).symm }

/-- A machine that reads one instruction into the place of the one that reads it, makes a call that
there is not, and goes on behind its program. -/
def selfReading : Machine .standard Simulated :=
  .fresh .standard
    [.imm (some .A) 5, .imm (some .B) 3, .imm (some .C) 1, .sys 1 (some .D), .sys 0x40 (some .D)]
    (.ofSize .main 16) false
    { Simulated.empty with
      streams := Simulated.empty.streams.insert 5 ⟨[2, 0x20, 0x20], none, none, none, none⟩ }

/-- Of six steps four succeed. The snapshot of the fourth tells the call that has read the code, and
not the code that it has read. The observer has been shown the call that failed, too. -/
theorem selfReading_traced :
    (snapshots Simulated.host 6 selfReading).map (·.count) = [1, 2, 3, 4] ∧
    (∃ s, (outcomes Simulated.host 6 selfReading)[3]? = some (.ok s) ∧
      s.instruction = .sys 1 (some .D)) ∧
    (after Simulated.host 4 selfReading).program[3]? = some (.sys 0x20 (some .A)) ∧
    (after Simulated.host 6 selfReading).observed.size = 4 + 1 := by
  have h : Traced Simulated.host 6 selfReading := traced_fresh ..
  have hlength : (snapshots Simulated.host 6 selfReading).length = 4 := by decide +kernel
  have hfailed : ((List.range 6).countP fun k =>
      breaksOff Simulated.host (after Simulated.host k selfReading)) = 1 := by decide +kernel
  have hI : (after Simulated.host 3 selfReading).registers.get .I = 3 := by decide +kernel
  have hprogram : (after Simulated.host 3 selfReading).program[3]? = some (.sys 1 (some .D)) := by
    decide +kernel
  have hok : (step Simulated.host (after Simulated.host 3 selfReading)).1.isOk = true := by
    decide +kernel
  obtain ⟨s, hs⟩ := exists_ok_of_isOk hok
  have ho : (outcomes Simulated.host 6 selfReading)[3]? = some (.ok s) := by
    rw [getElem?_outcomes, if_pos (by decide), hs]
  refine ⟨?_, ⟨s, ho, ?_⟩, by decide +kernel, ?_⟩
  · rw [h.counts, hlength]
    rfl
  · have ht := h.tells 3 s ho
    have hi := ht.instruction
    rw [ht.index, hI] at hi
    exact Option.some.inj (hi.symm.trans hprogram)
  · rw [h.observed_size, h.steps, hlength, hfailed]

end Machine

end Yan85
