import Yan85.Bindings.Standard
import Yan85.Host.Simulated
import Yan85.Machine.Run
import Yan85.Proofs.Bindings.Lookups
import Yan85.Proofs.Machine.Accesses

/-! # A run is a bounded iteration of steps

* `AtExit m code`: the next instruction of `m` is an exit with this code. `atExit_of_step` and
  `step_of_atExit` say that a step ends the program there and only there.
* `Proceeds H m n`: the first `n` steps from `m` succeed, and the program has not exited after them.
* `Round H limit m`: what one round of a run does; proofs about runs are by cases on it.
* `Ends H limit m r m'`: given enough rounds, a run ends with `r` and leaves `m'`.
* `Finishes H limit m r m'`: the three ways in which a run ends, told from the steps alone.
  `ends_iff_finishes` says that a run ends in these ways and no others.
* `run_iterates_steps`: what this says about each result, and that a limit bounds the steps.
-/

namespace Yan85.Machine
set_option autoImplicit false

variable {b : Bindings} {σ : Type} {H : Host σ} {m m' : Machine b σ} {limit : Option Int}

/-! ## Exits -/

/-- The next instruction asks for the exit, with the code that is in `A`. -/
def AtExit (m : Machine b σ) (code : Int) : Prop :=
  ∃ result, m.fetch = .ok (.sys (b.syscalls.get .exit) result) ∧
    code = byteValue (m.registers.get .A)

theorem execute_exit (H : Host σ) (m : Machine b σ) (result : Operand) :
    execute H (.sys (b.syscalls.get .exit) result) m =
      (.error (.halt (byteValue (m.registers.get .A))),
        m.tell (.called .exit (byteValue (m.registers.get .A)) (byteValue (m.registers.get .B))
          (byteValue (m.registers.get .C)))) := by
  have hs : Syscall.ofCode? b (byteValue (b.syscalls.get .exit)) = some .exit :=
    Syscall.ofCode?_byteValue_iff.2 rfl
  change (call H (b.syscalls.get .exit) >>= fun v => writeOperand result v) m = _
  apply Action.bind_apply_error
  unfold call dispatch
  rw [hs]
  rfl

theorem blames_execute (H : Host σ) {kinds : List FaultKind} {i : Instruction}
    (hk : ∀ k ∈ .decode :: accessKinds, k ∈ kinds)
    (hs : i.mnemonic? = some .sys → ∀ k ∈ dispatchKinds, k ∈ kinds) :
    Blames kinds (execute H i : Action (Machine b σ) Unit) := by
  have hc := closed_blames (b := b) (σ := σ) fun k hm => hk k (List.mem_cons_of_mem _ hm)
  refine execute_of_closed hc H ?_ ?_
  · rintro number result rfl x y z m f m' h
    exact hs rfl _ (blames_dispatch H _ _ _ _ m f m' h)
  · intro _ m f m' h
    cases h
    exact hk _ (List.mem_cons_self ..)

/-- Only a system call ends the program, and only the call for the exit does. -/
theorem exit_of_execute {i : Instruction} {code : Int}
    (h : execute H i m = (.error (.halt code), m')) :
    ∃ result, i = .sys (b.syscalls.get .exit) result ∧
      code = byteValue (m.registers.get .A) := by
  by_cases hs : i.mnemonic? = some .sys
  · cases i with
    | sys number result =>
      obtain ⟨f, hc, hf⟩ | ⟨v, m1, -, hw⟩ := execute_sys_cases h
      · cases hf
        obtain ⟨-, hf, -⟩ | ⟨s, hn, hc⟩ := dispatch_cases hc
        · cases hf
        · obtain rfl : s = .exit := hc.eq_exit.1
          cases hc
          rw [Syscall.ofCode?_byteValue_iff] at hn
          exact ⟨result, by rw [hn], rfl⟩
      · have hk := blames_writeOperand result v m1 _ _ hw
        exact absurd hk (by simp [accessKinds, Fault.kind])
    | _ => cases hs
  · have hb := blames_execute (b := b) H (fun k hk => hk) (fun hn => absurd hn hs)
    exact absurd (hb m _ _ h) (by simp [accessKinds, Fault.kind])

/-! ## Steps that succeed, and steps that fail -/

theorem counted_of_step {s : Snapshot} (h : step H m = (.ok s, m')) :
    m.exitCode = none ∧ m'.steps = m.steps + 1 := by
  cases step_eq_iff.1 h with
  | done hx _ he | exited hx _ he =>
    exact ⟨hx, congrArg (· + 1) (execute_counted he).steps⟩

theorem atExit_of_step {s : Snapshot} {code : Int} (h : step H m = (.ok s, m'))
    (hc : m'.exitCode = some code) : m.AtExit code := by
  cases step_eq_iff.1 h with
  | done hx hf he =>
    have hn := (execute_counted he).exitCode.trans hx
    cases hn.symm.trans hc
  | exited hx hf he =>
    obtain rfl := Option.some.inj hc
    obtain ⟨result, rfl, rfl⟩ := exit_of_execute he
    exact ⟨result, hf, congrArg byteValue (get_begun m _ (by decide))⟩

theorem step_of_atExit {code : Int} (hx : m.exitCode = none) (h : m.AtExit code) (H : Host σ) :
    (∃ s, (step H m).1 = .ok s) ∧ (next H m).exitCode = some code := by
  obtain ⟨result, hf, rfl⟩ := h
  have he := execute_exit H (m.begun (.sys (b.syscalls.get .exit) result)) result
  rw [get_begun m _ (by decide)] at he
  have hs := (Steps.exited hx hf he).step_eq
  refine ⟨⟨_, congrArg Prod.fst hs⟩, ?_⟩
  unfold next
  rw [hs]
  rfl

theorem step_kind_ne {f : Fault} (h : step H m = (.error f, m')) : f.kind ≠ .stepLimit := by
  cases step_eq_iff.1 h with
  | halted => simp [Fault.kind]
  | unfetched _ hf =>
    rw [kind_of_fetch hf]
    decide
  | @failed i _ _ _ _ he _ =>
    have hb : Blames (.decode :: accessKinds ++ dispatchKinds)
        (execute H i : Action (Machine b σ) Unit) :=
      blames_execute H (fun _ => List.mem_append_left _) (fun _ _ => List.mem_append_right _)
    intro hk
    have hm := hb _ _ _ he
    rw [hk] at hm
    exact absurd hm (by decide)

/-- A fault of a step is a halt only after an exit. -/
theorem step_kind_ne_halt {f : Fault} (hx : m.exitCode = none) (h : step H m = (.error f, m')) :
    f.kind ≠ .halt := by
  cases step_eq_iff.1 h with
  | halted hc => cases hx.symm.trans hc
  | unfetched _ hf =>
    rw [kind_of_fetch hf]
    decide
  | failed _ _ _ hn => exact not_halt.2 hn

/-! ## Steps before the end -/

/-- The first `n` steps succeed, and the program has not exited after them. -/
structure Proceeds (H : Host σ) (m : Machine b σ) (n : Nat) : Prop where
  succeeds : ∀ i < n, ∃ s, (step H (after H i m)).1 = .ok s
  running : (after H n m).exitCode = none

theorem proceeds_zero_iff : Proceeds H m 0 ↔ m.exitCode = none := by
  constructor
  · intro h
    exact h.running
  · intro h
    exact ⟨fun i hi => absurd hi (Nat.not_lt_zero i), h⟩

theorem proceeds_succ_iff {n : Nat} :
    Proceeds H m (n + 1) ↔ (∃ s, (step H m).1 = .ok s) ∧ Proceeds H (next H m) n := by
  constructor
  · intro h
    have hr := h.running
    rw [after_succ] at hr
    refine ⟨h.succeeds 0 (Nat.succ_pos n), fun i hi => ?_, hr⟩
    have hs := h.succeeds (i + 1) (Nat.succ_lt_succ hi)
    rw [after_succ] at hs
    exact hs
  · rintro ⟨h0, hn⟩
    have hr := hn.running
    rw [← after_succ] at hr
    refine ⟨fun i hi => ?_, hr⟩
    cases i with
    | zero => exact h0
    | succ i =>
      rw [after_succ]
      exact hn.succeeds i (Nat.lt_of_succ_lt_succ hi)

/-- Only steps that succeed are counted, and here all of them do. -/
theorem Proceeds.steps {n : Nat} (h : Proceeds H m n) : (after H n m).steps = m.steps + n := by
  induction n generalizing m with
  | zero => rfl
  | succ n ih =>
    obtain ⟨⟨s, hs⟩, hn⟩ := proceeds_succ_iff.1 h
    have h1 := (counted_of_step (Prod.ext hs rfl : step H m = (.ok s, next H m))).2
    rw [after_succ, ih hn, h1]
    omega

/-! ## One round of a run -/

/-- The limit, if there is one, is not below `n`. -/
def Allows (limit : Option Int) (n : Nat) : Prop := ∀ l, limit = some l → (n : Int) ≤ l

theorem Allows.mono {n k : Nat} (h : Allows limit n) (hk : k ≤ n) : Allows limit k := by
  intro l hl
  have := h l hl
  omega

theorem reached_eq_some_iff {l : Int} :
    reached limit m = some l ↔ limit = some l ∧ l ≤ m.steps := by
  unfold reached
  rw [Option.filter_eq_some_iff, decide_eq_true_iff]

theorem reached_eq_none_iff : reached limit m = none ↔ Allows limit (m.steps + 1) := by
  unfold reached Allows
  rw [Option.filter_eq_none_iff]
  constructor
  · intro h l hl
    have := h l hl
    rw [decide_eq_true_iff] at this
    omega
  · intro h l hl
    have := h l hl
    rw [decide_eq_true_iff]
    omega

theorem Proceeds.reached_eq_none {j : Nat} (hj : Proceeds H m j)
    (hl : Allows limit (m.steps + j + 1)) : reached limit (after H j m) = none := by
  rw [reached_eq_none_iff, hj.steps]
  exact hl

theorem run_halted {code : Int} (hx : m.exitCode = some code) (rounds : Nat) :
    run H limit (rounds + 1) m = some (.ok code, m) := by
  simp only [run, hx]

theorem run_reached {l : Int} (hx : m.exitCode = none) (hl : reached limit m = some l)
    (rounds : Nat) : run H limit (rounds + 1) m = some (.error (.stepLimit l), m) := by
  simp only [run, hx, hl]

theorem run_step {s : Snapshot} (hl : reached limit m = none) (hs : step H m = (.ok s, m'))
    (rounds : Nat) : run H limit (rounds + 1) m = run H limit rounds m' := by
  simp only [run, (counted_of_step hs).1, hl, hs]

theorem run_failed {f : Fault} (hx : m.exitCode = none) (hl : reached limit m = none)
    (hs : step H m = (.error f, m')) (rounds : Nat) :
    run H limit (rounds + 1) m = some (.error f, m') := by
  simp only [run, hx, hl, hs]

/-- The ways in which a round can go, and what a run makes of each. -/
inductive Round (H : Host σ) (limit : Option Int) (m : Machine b σ) : Prop
  | halted {code : Int} (hx : m.exitCode = some code)
      (hr : ∀ n, run H limit (n + 1) m = some (.ok code, m))
  | stopped {l : Int} (hx : m.exitCode = none) (hl : reached limit m = some l)
      (hr : ∀ n, run H limit (n + 1) m = some (.error (.stepLimit l), m))
  | failed {f : Fault} (hx : m.exitCode = none) (hl : reached limit m = none)
      (hs : step H m = (.error f, next H m))
      (hr : ∀ n, run H limit (n + 1) m = some (.error f, next H m))
  | went {s : Snapshot} (hl : reached limit m = none) (hs : step H m = (.ok s, next H m))
      (hr : ∀ n, run H limit (n + 1) m = run H limit n (next H m))

theorem round (H : Host σ) (limit : Option Int) (m : Machine b σ) : Round H limit m := by
  cases hx : m.exitCode with
  | some code => exact .halted hx (run_halted hx)
  | none =>
    cases hl : reached limit m with
    | some l => exact .stopped hx hl (run_reached hx hl)
    | none =>
      cases hs : (step H m).1 with
      | error f => exact .failed hx hl (Prod.ext hs rfl) (run_failed hx hl (Prod.ext hs rfl))
      | ok s => exact .went hl (Prod.ext hs rfl) (run_step hl (Prod.ext hs rfl))

/-- A run that has ended needs no more rounds. -/
theorem run_add {rounds : Nat} {o : Except Fault Int × Machine b σ}
    (h : run H limit rounds m = some o) (more : Nat) :
    run H limit (rounds + more) m = some o := by
  induction rounds generalizing m with
  | zero => cases h
  | succ rounds ih =>
    rw [Nat.add_right_comm]
    cases round H limit m with
    | halted _ hr | stopped _ _ hr | failed _ _ _ hr =>
      rw [hr] at h ⊢
      exact h
    | went _ _ hr =>
      rw [hr] at h ⊢
      exact ih h

/-- The rounds of the first steps, none of which ends the run. -/
theorem run_of_proceeds {j : Nat} (h : Proceeds H m j)
    (hl : ∀ i < j, Allows limit (m.steps + i + 1)) (rounds : Nat) :
    run H limit (j + rounds) m = run H limit rounds (after H j m) := by
  induction j generalizing m with
  | zero => rw [Nat.zero_add, after_zero]
  | succ j ih =>
    obtain ⟨⟨s, hs⟩, hn⟩ := proceeds_succ_iff.1 h
    have hs' : step H m = (.ok s, next H m) := Prod.ext hs rfl
    have h1 := (counted_of_step hs').2
    have h0 := reached_eq_none_iff.2 (hl 0 (Nat.succ_pos j))
    rw [Nat.add_right_comm j 1 rounds, run_step h0 hs', after_succ]
    refine ih hn fun i hi => ?_
    have hi' := hl (i + 1) (Nat.succ_lt_succ hi)
    rw [h1, Nat.add_right_comm m.steps 1 i]
    exact hi'

/-! ## Whole runs -/

/-- Given enough rounds, a run from `m` ends with `r` and leaves `m'`. -/
def Ends (H : Host σ) (limit : Option Int) (m : Machine b σ) (r : Except Fault Int)
    (m' : Machine b σ) : Prop :=
  ∃ rounds, run H limit rounds m = some (r, m')

theorem Ends.unique {r r' : Except Fault Int} {m'' : Machine b σ} (h : Ends H limit m r m')
    (h' : Ends H limit m r' m'') : r = r' ∧ m' = m'' := by
  obtain ⟨n, hn⟩ := h
  obtain ⟨k, hk⟩ := h'
  have e := run_add hn k
  rw [Nat.add_comm, run_add hk n] at e
  obtain ⟨rfl, rfl⟩ := Prod.mk.inj (Option.some.inj e)
  exact ⟨rfl, rfl⟩

/-- The ways in which a run ends: with an exit, with the first step that fails, or at the limit. -/
inductive Finishes (H : Host σ) (limit : Option Int) (m : Machine b σ) :
    Except Fault Int → Machine b σ → Prop
  | exited {j : Nat} {code : Int} (hj : Proceeds H m j) (hl : Allows limit (m.steps + j + 1))
      (he : (after H j m).AtExit code) : Finishes H limit m (.ok code) (after H (j + 1) m)
  | failed {j : Nat} {f : Fault} {m' : Machine b σ} (hj : Proceeds H m j)
      (hl : Allows limit (m.steps + j + 1)) (hs : step H (after H j m) = (.error f, m')) :
      Finishes H limit m (.error f) m'
  | stopped {l : Int} (hl : limit = some l) (hj : Proceeds H m (l - m.steps).toNat) :
      Finishes H limit m (.error (.stepLimit l)) (after H (l - m.steps).toNat m)

theorem Finishes.cons {s : Snapshot} {r : Except Fault Int} (hs : step H m = (.ok s, next H m))
    (hl : Allows limit (m.steps + 1)) (h : Finishes H limit (next H m) r m') :
    Finishes H limit m r m' := by
  have h1 := (counted_of_step hs).2
  have hcons : ∀ {n}, Proceeds H (next H m) n → Proceeds H m (n + 1) := fun hn =>
    proceeds_succ_iff.2 ⟨⟨s, congrArg Prod.fst hs⟩, hn⟩
  cases h with
  | @exited j _ hj hl' he =>
    rw [h1, Nat.add_right_comm m.steps 1 j] at hl'
    exact .exited (hcons hj) hl' he
  | @failed j _ _ hj hl' he =>
    rw [h1, Nat.add_right_comm m.steps 1 j] at hl'
    exact .failed (hcons hj) hl' he
  | @stopped l hl' hj =>
    have hle := hl l hl'
    have hn : (l - (next H m).steps).toNat + 1 = (l - m.steps).toNat := by
      rw [h1]
      omega
    have hj' := hcons hj
    rw [hn] at hj'
    rw [← after_succ, hn]
    exact .stopped hl' hj'

theorem finishes_of_run {rounds : Nat} {r : Except Fault Int} (hx : m.exitCode = none)
    (h : run H limit rounds m = some (r, m')) : Finishes H limit m r m' := by
  induction rounds generalizing m with
  | zero => cases h
  | succ rounds ih =>
    have h0 : Proceeds H m 0 := proceeds_zero_iff.2 hx
    cases round H limit m with
    | halted hx' => cases hx.symm.trans hx'
    | @stopped l _ hl hr =>
      obtain ⟨rfl, rfl⟩ := Prod.mk.inj (Option.some.inj ((hr rounds).symm.trans h))
      obtain ⟨hl', hle⟩ := reached_eq_some_iff.1 hl
      have hn : (l - m.steps).toNat = 0 := by omega
      have hf : Finishes H limit m _ (after H (l - m.steps).toNat m) :=
        .stopped hl' (by rw [hn]; exact h0)
      rw [hn] at hf
      exact hf
    | failed _ hl hs hr =>
      obtain ⟨rfl, rfl⟩ := Prod.mk.inj (Option.some.inj ((hr rounds).symm.trans h))
      exact .failed h0 (reached_eq_none_iff.1 hl) hs
    | went hl hs hr =>
      have hl' := reached_eq_none_iff.1 hl
      rw [hr] at h
      cases hc : (next H m).exitCode with
      | none => exact .cons hs hl' (ih hc h)
      | some code =>
        -- One more round sees the exit; without it the run would not have ended.
        cases rounds with
        | zero => cases h
        | succ rounds =>
          rw [run_halted hc] at h
          cases h
          exact .exited h0 hl' (atExit_of_step hs hc)

theorem Finishes.ends {r : Except Fault Int} (h : Finishes H limit m r m') :
    Ends H limit m r m' := by
  cases h with
  | @exited j code hj hl he =>
    obtain ⟨⟨s, hs⟩, hc⟩ := step_of_atExit hj.running he H
    refine ⟨j + 2, ?_⟩
    rw [run_of_proceeds hj fun i hi => hl.mono (by omega),
      run_step (hj.reached_eq_none hl) (Prod.ext hs rfl), after_succ']
    exact run_halted hc 0
  | @failed j f _ hj hl hs =>
    refine ⟨j + 1, ?_⟩
    rw [run_of_proceeds hj fun i hi => hl.mono (by omega)]
    exact run_failed hj.running (hj.reached_eq_none hl) hs 0
  | @stopped l hl hj =>
    refine ⟨(l - m.steps).toNat + 1, ?_⟩
    rw [run_of_proceeds hj fun i hi l' hl' => by cases hl.symm.trans hl'; omega]
    refine run_reached hj.running (reached_eq_some_iff.2 ⟨hl, ?_⟩) 0
    rw [hj.steps]
    omega

theorem ends_iff_finishes {r : Except Fault Int} (hx : m.exitCode = none) :
    Ends H limit m r m' ↔ Finishes H limit m r m' := by
  constructor
  · rintro ⟨rounds, h⟩
    exact finishes_of_run hx h
  · exact Finishes.ends

/-- A run leaves what some number of steps leaves, of which at most the last one fails or exits, and it
fails for its limit or as one of them. -/
theorem Ends.exists_after {r : Except Fault Int} (h : Ends H limit m r m') :
    ∃ j, m' = after H j m ∧ (∀ i < j, Proceeds H m i) ∧ ∀ f, r = .error f →
      f.kind = .stepLimit ∨ ∃ k, (step H (after H k m)).1 = .error f := by
  obtain ⟨rounds, h⟩ := h
  induction rounds generalizing m with
  | zero => cases h
  | succ rounds ih =>
    have hnone : ∀ i < 0, Proceeds H m i := fun i hi => absurd hi (Nat.not_lt_zero i)
    cases round H limit m with
    | halted _ hr =>
      cases (hr rounds).symm.trans h
      exact ⟨0, rfl, hnone, fun f hf => by cases hf⟩
    | stopped _ _ hr =>
      cases (hr rounds).symm.trans h
      refine ⟨0, rfl, hnone, fun f hf => ?_⟩
      cases hf
      exact .inl rfl
    | failed hx _ hs hr =>
      cases (hr rounds).symm.trans h
      refine ⟨1, rfl, fun i hi => ?_, fun f hf => ?_⟩
      · obtain rfl : i = 0 := by omega
        exact proceeds_zero_iff.2 hx
      · cases hf
        exact .inr ⟨0, congrArg Prod.fst hs⟩
    | @went s _ hs hr =>
      obtain ⟨j, hj, hp, hf⟩ := ih ((hr rounds).symm.trans h)
      refine ⟨j + 1, by rw [after_succ]; exact hj, fun i hi => ?_, fun f hr => ?_⟩
      · cases i with
        | zero => exact proceeds_zero_iff.2 (counted_of_step hs).1
        | succ i =>
          have hi := hp i (Nat.lt_of_succ_lt_succ hi)
          exact proceeds_succ_iff.2 ⟨⟨s, congrArg Prod.fst hs⟩, hi⟩
      · obtain hk | ⟨k, hs⟩ := hf f hr
        · exact .inl hk
        · refine .inr ⟨k + 1, ?_⟩
          rw [after_succ]
          exact hs

/-- A limit bounds the steps, and with them the rounds that a run needs. -/
theorem exists_run (H : Host σ) (l : Int) (n : Nat) (m : Machine b σ)
    (hn : (l - m.steps).toNat ≤ n) :
    ∃ r, ∃ j ≤ n, run H (some l) (n + 1) m = some (r, after H j m) := by
  induction n generalizing m with
  | zero =>
    cases round H (some l) m with
    | halted _ hr | stopped _ _ hr => exact ⟨_, 0, Nat.le_refl 0, hr 0⟩
    | failed _ hl | went hl =>
      have hle := reached_eq_none_iff.1 hl l rfl
      omega
  | succ n ih =>
    cases round H (some l) m with
    | halted _ hr | stopped _ _ hr => exact ⟨_, 0, Nat.zero_le _, hr (n + 1)⟩
    | failed _ _ _ hr => exact ⟨_, 1, Nat.succ_pos n, hr (n + 1)⟩
    | went _ hs hr =>
      have h1 := (counted_of_step hs).2
      obtain ⟨r, j, hj, h⟩ := ih (next H m) (by omega)
      refine ⟨r, j + 1, Nat.succ_le_succ hj, ?_⟩
      rw [hr, after_succ]
      exact h

/-- The first step that fails or exits is the end of a run without limit. -/
theorem exists_ends_of_not_proceeds (hx : m.exitCode = none) {n : Nat} (hn : ¬ Proceeds H m n) :
    ∃ r m', Ends H none m r m' := by
  -- Going back from `n`, we come to a number of steps that succeed while the next one ends the run.
  induction n with
  | zero => exact absurd (proceeds_zero_iff.2 hx) hn
  | succ n ih =>
    by_cases hp : Proceeds H m n
    · have hl : Allows none (m.steps + n + 1) := fun l hl => by cases hl
      cases hs : (step H (after H n m)).1 with
      | error f => exact ⟨_, _, (Finishes.failed hp hl (Prod.ext hs rfl)).ends⟩
      | ok s =>
        cases hc : (after H (n + 1) m).exitCode with
        | none =>
          refine absurd ⟨fun i hi => ?_, hc⟩ hn
          obtain hi | rfl := Nat.lt_succ_iff_lt_or_eq.1 hi
          · exact hp.succeeds i hi
          · exact ⟨s, hs⟩
        | some code =>
          rw [after_succ'] at hc
          have he : (after H n m).AtExit code := atExit_of_step (Prod.ext hs rfl) hc
          exact ⟨_, _, (Finishes.exited hp hl he).ends⟩
    · exact ih hp

/-- Only a run without limit may have no end, and then all its steps succeed without an exit. -/
theorem exists_ends_iff (hx : m.exitCode = none) :
    (∃ r m', Ends H limit m r m') ↔ ¬ (limit = none ∧ ∀ n, Proceeds H m n) := by
  constructor
  · rintro ⟨r, m', h⟩ ⟨rfl, hp⟩
    cases (ends_iff_finishes hx).1 h with
    | @exited j code hj _ he =>
      have hc := (step_of_atExit hj.running he H).2
      rw [← after_succ', (hp (j + 1)).running] at hc
      cases hc
    | @failed j _ _ _ _ hs =>
      obtain ⟨s, hok⟩ := (hp (j + 1)).succeeds j (Nat.lt_succ_self j)
      cases hok.symm.trans (congrArg Prod.fst hs)
    | stopped hl => cases hl
  · intro h
    cases limit with
    | some l =>
      obtain ⟨r, j, -, hr⟩ := exists_run H l _ m (Nat.le_refl _)
      exact ⟨r, _, _, hr⟩
    | none =>
      obtain ⟨n, hn⟩ := not_forall.1 fun hp => h ⟨rfl, hp⟩
      exact exists_ends_of_not_proceeds hx hn

/-- **A run is a bounded iteration of steps.** From a machine that has not exited, a run under a
limit or without one
* gives a code if and only if some step is an exit with this code, all steps before it succeed, and
  the limit allows for it;
* fails as a step does if and only if this step is the first to fail, and the limit allows for it;
* fails for its limit if and only if all steps left under the limit succeed without an exit.

The state after it is the state after exactly these steps. Under a limit there is always a result,
after no more steps than are left. -/
theorem run_iterates_steps (H : Host σ) (limit : Option Int) (m : Machine b σ)
    (hx : m.exitCode = none) :
    (∀ code m', Ends H limit m (.ok code) m' ↔
      ∃ j, Proceeds H m j ∧ (after H j m).AtExit code ∧ Allows limit (m.steps + (j + 1)) ∧
        m' = after H (j + 1) m) ∧
    (∀ f m', Ends H limit m (.error f) m' ∧ f.kind ≠ .stepLimit ↔
      ∃ j, Proceeds H m j ∧ step H (after H j m) = (.error f, m') ∧
        Allows limit (m.steps + (j + 1))) ∧
    (∀ l m', Ends H limit m (.error (.stepLimit l)) m' ↔
      limit = some l ∧ Proceeds H m (l - m.steps).toNat ∧
        m' = after H (l - m.steps).toNat m) ∧
    (∀ l, limit = some l → ∃ r, ∃ j ≤ (l - m.steps).toNat,
      run H limit ((l - m.steps).toNat + 1) m = some (r, after H j m)) := by
  refine ⟨fun code m' => ?_, fun f m' => ?_, fun l m' => ?_, ?_⟩
  · rw [ends_iff_finishes hx]
    constructor
    · intro h
      cases h with
      | exited hj hl he => exact ⟨_, hj, he, hl, rfl⟩
    · rintro ⟨j, hj, he, hl, rfl⟩
      exact .exited hj hl he
  · rw [ends_iff_finishes hx]
    constructor
    · rintro ⟨h, hk⟩
      cases h with
      | failed hj hl hs => exact ⟨_, hj, hs, hl⟩
      | stopped => exact absurd rfl hk
    · rintro ⟨j, hj, hs, hl⟩
      exact ⟨.failed hj hl hs, step_kind_ne hs⟩
  · rw [ends_iff_finishes hx]
    constructor
    · intro h
      cases h with
      | failed _ _ hs => exact absurd rfl (step_kind_ne hs)
      | stopped hl hj => exact ⟨hl, hj, rfl⟩
    · rintro ⟨hl, hj, rfl⟩
      exact .stopped hl hj
  · rintro l rfl
    exact exists_run H l _ m (Nat.le_refl _)

/-- A machine that has made five steps and exits with its seventh. -/
def leaving : Machine .standard Simulated :=
  { fresh .standard [.imm (some .A) 3, .sys 0x20 none] (.ofSize .main addressSpaceSize) false
      .empty with steps := 5 }

theorem leaving_in_time :
    leaving.exitCode = none ∧
      Ends Simulated.host (some 7) leaving (.ok 3) (after Simulated.host 2 leaving) := by
  have hI : leaving.registers.get .I = 0 := RegisterFile.get_zero .I
  have hf : leaving.fetch = .ok (.imm (some .A) 3) := fetch_eq_ok_iff.2 (by rw [hI]; rfl)
  have hs := (Steps.done (H := Simulated.host) rfl hf (execute_imm .A 3)).step_eq
  have hj : Proceeds Simulated.host leaving 1 :=
    proceeds_succ_iff.2 ⟨⟨_, congrArg Prod.fst hs⟩, proceeds_zero_iff.2 (by decide +kernel)⟩
  have he : (after Simulated.host 1 leaving).AtExit 3 :=
    ⟨none, fetch_eq_ok_iff.2 (by decide +kernel), by decide +kernel⟩
  have hl : Allows (some 7) (leaving.steps + (1 + 1)) := by
    rintro l ⟨⟩
    decide
  exact ⟨rfl, ((run_iterates_steps Simulated.host (some 7) leaving rfl).1 3 _).2
    ⟨1, hj, he, hl, rfl⟩⟩

end Yan85.Machine
