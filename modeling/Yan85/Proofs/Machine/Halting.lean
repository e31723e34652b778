import Yan85.Proofs.Machine.Ownership

/-! # Halting is final

* `Request`, `Reply`: a step or a run, and what comes of it. `Converses H m qs as m'`: the requests
  `qs`, made of the machine `m` one after the other, get the replies `as` and leave `m'`.
* `Request.whenHalted code`: the reply of a machine that has exited with `code`.
  `converses_of_halted` says that such a machine gives these replies and never changes.
* `snapshot_exit_iff`: a snapshot has an exit code if and only if its step was an exit.
* `Exits H m code m'`: among the uses of `m` that lead to `m'` there is a step that was an exit.
  `Reaches.exits` says that a machine comes to be halted in no other way.
* `halting_is_final`: all of this together.
-/

namespace Yan85.Machine
set_option autoImplicit false

variable {b : Bindings} {σ : Type} {H : Host σ} {m m' : Machine b σ} {code : Int}

/-! ## Requests to a machine -/

/-- What can be asked of a machine. -/
inductive Request
  | step
  | run (limit : Option Int)

/-- What comes of a request. -/
inductive Reply
  | stepped (r : Except Fault Snapshot)
  | ran (r : Except Fault Int)

/-- A request gets a reply and leaves a machine. -/
inductive Responds (H : Host σ) (m : Machine b σ) : Request → Reply → Machine b σ → Prop
  | stepped : Responds H m .step (.stepped (step H m).1) (next H m)
  | ran {limit : Option Int} {r : Except Fault Int} {m' : Machine b σ} (h : Ends H limit m r m') :
      Responds H m (.run limit) (.ran r) m'

/-- Requests one after the other get their replies and leave a machine. -/
inductive Converses (H : Host σ) :
    Machine b σ → List Request → List Reply → Machine b σ → Prop
  | done {m : Machine b σ} : Converses H m [] [] m
  | more {m m₁ m' : Machine b σ} {q : Request} {a : Reply} {qs : List Request} {as : List Reply}
      (h : Responds H m q a m₁) (hs : Converses H m₁ qs as m') :
      Converses H m (q :: qs) (a :: as) m'

/-- The reply of a machine that has exited with `code`. -/
def Request.whenHalted (code : Int) : Request → Reply
  | .step => .stepped (.error (.halt code))
  | .run _ => .ran (.ok code)

/-! ## After the exit -/

theorem step_of_halted (hx : m.exitCode = some code) (H : Host σ) :
    step H m = (.error (.halt code), m) := (Steps.halted hx).step_eq

theorem next_of_halted (hx : m.exitCode = some code) (H : Host σ) : next H m = m :=
  congrArg Prod.snd (step_of_halted hx H)

/-- The exit is seen before the limit is looked at. -/
theorem ends_of_halted_iff (hx : m.exitCode = some code) {limit : Option Int}
    {r : Except Fault Int} : Ends H limit m r m' ↔ r = .ok code ∧ m' = m := by
  have h : Ends H limit m (.ok code) m := ⟨1, run_halted hx 0⟩
  constructor
  · intro h'
    obtain ⟨rfl, rfl⟩ := h.unique h'
    exact ⟨rfl, rfl⟩
  · rintro ⟨rfl, rfl⟩
    exact h

theorem responds_of_halted (hx : m.exitCode = some code) {q : Request} {a : Reply} :
    Responds H m q a m' ↔ a = q.whenHalted code ∧ m' = m := by
  constructor
  · intro h
    cases h with
    | stepped =>
      rw [step_of_halted hx, next_of_halted hx]
      exact ⟨rfl, rfl⟩
    | ran h =>
      obtain ⟨rfl, rfl⟩ := (ends_of_halted_iff hx).1 h
      exact ⟨rfl, rfl⟩
  · rintro ⟨rfl, rfl⟩
    cases q with
    | step =>
      have h : Responds H m' .step (.stepped (step H m').1) (next H m') := .stepped
      rw [step_of_halted hx, next_of_halted hx] at h
      exact h
    | run limit => exact .ran ((ends_of_halted_iff hx).2 ⟨rfl, rfl⟩)

theorem converses_of_halted (hx : m.exitCode = some code) {qs : List Request} {as : List Reply} :
    Converses H m qs as m' ↔ as = qs.map (Request.whenHalted code) ∧ m' = m := by
  induction qs generalizing as with
  | nil =>
    constructor
    · intro h
      cases h
      exact ⟨rfl, rfl⟩
    · rintro ⟨rfl, rfl⟩
      exact .done
  | cons q qs ih =>
    constructor
    · intro h
      cases h with
      | more h hs =>
        obtain ⟨rfl, rfl⟩ := (responds_of_halted hx).1 h
        obtain ⟨rfl, rfl⟩ := ih.1 hs
        exact ⟨rfl, rfl⟩
    · rintro ⟨rfl, rfl⟩
      have h := (responds_of_halted (H := H) (q := q) hx).2 ⟨rfl, rfl⟩
      exact .more h (ih.2 ⟨rfl, rfl⟩)

/-! ## The step that exits -/

theorem exitCode_of_step {s : Snapshot} (h : step H m = (.ok s, m')) :
    s.exitCode = m'.exitCode := by
  cases step_eq_iff.1 h with
  | done hx _ he => exact hx.symm.trans (execute_counted he).exitCode.symm
  | exited => rfl

/-- A snapshot has an exit code if and only if its step was an exit. -/
theorem snapshot_exit_iff :
    (∃ s, (step H m).1 = .ok s ∧ s.exitCode = some code) ↔
      m.exitCode = none ∧ m.AtExit code := by
  constructor
  · rintro ⟨s, hs, hc⟩
    have hstep : step H m = (.ok s, next H m) := Prod.ext hs rfl
    rw [exitCode_of_step hstep] at hc
    exact ⟨(counted_of_step hstep).1, atExit_of_step hstep hc⟩
  · rintro ⟨hx, he⟩
    obtain ⟨⟨s, hs⟩, hc⟩ := step_of_atExit hx he H
    have hstep : step H m = (.ok s, next H m) := Prod.ext hs rfl
    exact ⟨s, hs, (exitCode_of_step hstep).trans hc⟩

/-- A step leaves a machine halted if it was halted before, or if the step was an exit. -/
theorem halted_next_cases (h : (next H m).exitCode = some code) :
    m.exitCode = some code ∨ m.exitCode = none ∧ m.AtExit code := by
  revert h
  refine next_of_steps (P := fun m' => m'.exitCode = some code →
    m.exitCode = some code ∨ m.exitCode = none ∧ m.AtExit code) fun r m' hs h => ?_
  cases hs with
  | halted | unfetched => exact .inl h
  | exited hx hf he => exact .inr ⟨hx, atExit_of_step (Steps.exited hx hf he).step_eq h⟩
  | done hx _ he | failed hx _ he =>
    have hn := (execute_counted he).exitCode.trans hx
    cases hn.symm.trans h

/-! ## Calls and closes -/

theorem dispatch_counted (H : Host σ) (m : Machine b σ) (number x y z : Int) :
    m.Counted (dispatch H number x y z m).2 := by
  cases hd : dispatch H number x y z m with
  | mk r m' =>
    obtain ⟨-, -, rfl⟩ | ⟨s, -, hc⟩ := dispatch_cases hd
    · exact ⟨rfl, rfl⟩
    · exact ⟨hc.counted.steps, hc.counted.exitCode⟩

/-- A call for the exit from outside is refused with the halt that it asks for. -/
theorem dispatch_exit (H : Host σ) (m : Machine b σ) (x y z : Int) :
    (dispatch H (byteValue (b.syscalls.get .exit)) x y z m).1 = .error (.halt x) := by
  have hs : Syscall.ofCode? b (byteValue (b.syscalls.get .exit)) = some .exit :=
    Syscall.ofCode?_byteValue_iff.2 rfl
  unfold dispatch
  rw [hs]
  rfl

theorem exitCode_closeOne (H : Host σ) (m : Machine b σ) (e : Nat × List UInt8) :
    (closeOne H m e).exitCode = m.exitCode := by
  unfold closeOne
  simp only
  cases (H.close e.1 m.host).1 with
  | ok u => rfl
  | error f => rfl

theorem exitCode_close (H : Host σ) (m : Machine b σ) : (close H m).exitCode = m.exitCode := by
  change (m.descriptors.entries.reverse.foldl (closeOne H) m).exitCode = m.exitCode
  generalize m.descriptors.entries.reverse = es
  induction es generalizing m with
  | nil => rfl
  | cons e es ih =>
    have h := ih (closeOne H m e)
    exact h.trans (exitCode_closeOne H m e)

/-! ## All uses of a machine -/

/-- Something that can be done with the machine `m` leaves `m'`, and on the way there is a step that
was an exit with `code`. -/
def Exits (H : Host σ) (m : Machine b σ) (code : Int) (m' : Machine b σ) : Prop :=
  ∃ m₁, Reaches H m m₁ ∧ m₁.exitCode = none ∧ m₁.AtExit code ∧ Reaches H (next H m₁) m'

/-- A machine that has not exited comes to be halted by a step that was an exit, and by nothing
else. -/
theorem Reaches.exits (h : Reaches H m m') (hx : m.exitCode = none)
    (hc : m'.exitCode = some code) : Exits H m code m' := by
  -- That the state is reached goes along with the invariant, for the exit is looked for on the way.
  have hinv : Reaches H m m' ∧ ∀ code, m'.exitCode = some code → Exits H m code m' := by
    refine Reaches.invariant (H := H) (m := m)
      (P := fun m' => Reaches H m m' ∧ ∀ code, m'.exitCode = some code → Exits H m code m')
      ?_ ?_ ?_ h ⟨.start, fun c hn => ?_⟩
    · rintro m₂ ⟨h₂, ih⟩
      refine ⟨h₂.stepped, fun c hn => ?_⟩
      obtain hp | ⟨hp, he⟩ := halted_next_cases hn
      · obtain ⟨m₁, h₁, hx₁, he₁, hr⟩ := ih c hp
        exact ⟨m₁, h₁, hx₁, he₁, hr.stepped⟩
      · exact ⟨m₂, h₂, hp, he, .start⟩
    · rintro m₂ number x y z ⟨h₂, ih⟩
      refine ⟨h₂.dispatched number x y z, fun c hn => ?_⟩
      rw [(dispatch_counted H m₂ number x y z).exitCode] at hn
      obtain ⟨m₁, h₁, hx₁, he₁, hr⟩ := ih c hn
      exact ⟨m₁, h₁, hx₁, he₁, hr.dispatched number x y z⟩
    · rintro m₂ ⟨h₂, ih⟩
      refine ⟨h₂.closed, fun c hn => ?_⟩
      rw [exitCode_close] at hn
      obtain ⟨m₁, h₁, hx₁, he₁, hr⟩ := ih c hn
      exact ⟨m₁, h₁, hx₁, he₁, hr.closed⟩
    · cases hx.symm.trans hn
  exact hinv.2 code hc

/-- **Halting is final.** For a machine in any state:
* Its next step gives a snapshot with an exit code if and only if the machine has not exited and the
  instruction at `I` is an exit; the code is the byte in `A`.
* After such a step, whatever steps and runs under whatever limits are asked for one after the
  other, there are replies to all of them: each step fails with the halt of this code, each run
  gives this code, and nothing of the machine or its host changes.
* If it has not exited, then whatever is done with it, calls from outside and closes among the rest,
  it is halted only after a step that was an exit.
* A call from outside for the exit is refused with the halt that it asks for, and does not halt. -/
theorem halting_is_final (H : Host σ) (m : Machine b σ) :
    (∀ code, (∃ s, (step H m).1 = .ok s ∧ s.exitCode = some code) ↔
      m.exitCode = none ∧ m.AtExit code) ∧
    (∀ code, m.exitCode = none → m.AtExit code → ∀ qs as m',
      Converses H (next H m) qs as m' ↔
        as = qs.map (Request.whenHalted code) ∧ m' = next H m) ∧
    (∀ code m', m.exitCode = none → Reaches H m m' → m'.exitCode = some code →
      Exits H m code m') ∧
    ∀ x y z, (dispatch H (byteValue (b.syscalls.get .exit)) x y z m).1 = .error (.halt x) ∧
      (dispatch H (byteValue (b.syscalls.get .exit)) x y z m).2.exitCode = m.exitCode := by
  refine ⟨fun code => snapshot_exit_iff, fun code hx he qs as m' => ?_,
    fun code m' hx h hc => h.exits hx hc, fun x y z => ⟨dispatch_exit H m x y z, ?_⟩⟩
  · exact converses_of_halted (step_of_atExit hx he H).2
  · exact (dispatch_counted H m _ x y z).exitCode

/-- After its exit with 3, the machine answers a step and runs under a negative limit and without
one all with 3. -/
theorem leaving_stays :
    (after Simulated.host 1 leaving).exitCode = none ∧
      (after Simulated.host 1 leaving).AtExit 3 ∧
      Converses Simulated.host (after Simulated.host 2 leaving)
        [.run (some (-1)), .step, .run none]
        [.ran (.ok 3), .stepped (.error (.halt 3)), .ran (.ok 3)]
        (after Simulated.host 2 leaving) := by
  have hx : (after Simulated.host 1 leaving).exitCode = none := by decide +kernel
  have he : (after Simulated.host 1 leaving).AtExit 3 :=
    ⟨none, fetch_eq_ok_iff.2 (by decide +kernel), by decide +kernel⟩
  obtain ⟨-, hfinal, -⟩ := halting_is_final Simulated.host (after Simulated.host 1 leaving)
  exact ⟨hx, he, (hfinal 3 hx he _ _ _).2 ⟨rfl, rfl⟩⟩

end Yan85.Machine
