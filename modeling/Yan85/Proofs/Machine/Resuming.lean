import Yan85.Proofs.Machine.Runs

/-! # Runs that are resumed

* `Widens tight wide`: the limit `wide` is no lower than `tight`, or there is none.
* `ends_next_iff`: a step that succeeds under the limit makes no difference to how a run ends.
* `resumed_iff`, `Ends.widened`: what a wider limit makes of a run that has stopped at its limit,
  and of one that has ended before.
* `limited_run_resumes`: running up to a limit and then on is the same as running once.
-/

namespace Yan85.Machine
set_option autoImplicit false

variable {b : Bindings} {σ : Type} {H : Host σ} {m m' m'' : Machine b σ}
variable {limit tight wide : Option Int} {r : Except Fault Int} {f : Fault}

/-- The limit `wide` is no lower than the limit `tight`. -/
def Widens (tight wide : Option Int) : Prop := ∀ l, wide = some l → ∃ k, tight = some k ∧ k ≤ l

/-- A limit that is not reached is not reached when it is widened. -/
theorem Widens.reached_eq_none (hw : Widens tight wide) (h : reached tight m = none) :
    reached wide m = none := by
  rw [reached_eq_none_iff] at h ⊢
  intro l hl
  obtain ⟨k, hk, hkl⟩ := hw l hl
  have hm := h k hk
  omega

theorem ends_next_iff {s : Snapshot} (hl : reached limit m = none)
    (hs : step H m = (.ok s, next H m)) : Ends H limit (next H m) r m' ↔ Ends H limit m r m' := by
  constructor
  · rintro ⟨rounds, h⟩
    have hr := run_step hl hs rounds
    exact ⟨rounds + 1, hr.trans h⟩
  · rintro ⟨rounds, h⟩
    cases rounds with
    | zero => cases h
    | succ rounds =>
      have hr := run_step hl hs rounds
      exact ⟨rounds, hr.symm.trans h⟩

/-- Where a run has stopped at its limit, a run under a wider one goes on as if it came from the
start. -/
theorem resumed_iff (hw : Widens tight wide) (h : Ends H tight m (.error f) m')
    (hf : f.kind = .stepLimit) : Ends H wide m' r m'' ↔ Ends H wide m r m'' := by
  obtain ⟨rounds, h⟩ := h
  induction rounds generalizing m with
  | zero => cases h
  | succ rounds ih =>
    cases round H tight m with
    | halted _ hr =>
      cases (hr rounds).symm.trans h
    | stopped _ _ hr =>
      cases (hr rounds).symm.trans h
      exact Iff.rfl
    | failed _ _ hs hr =>
      cases (hr rounds).symm.trans h
      exact absurd hf (step_kind_ne hs)
    | went hl hs hr =>
      have hrest := ih ((hr rounds).symm.trans h)
      have hfirst : Ends H wide (next H m) r m'' ↔ Ends H wide m r m'' :=
        ends_next_iff (hw.reached_eq_none hl) hs
      exact hrest.trans hfirst

/-- A run that has ended before its limit ends in the same way under a wider one. -/
theorem Ends.widened (hw : Widens tight wide) (h : Ends H tight m r m')
    (hf : ∀ f, r = .error f → f.kind ≠ .stepLimit) : Ends H wide m r m' := by
  obtain ⟨rounds, h⟩ := h
  induction rounds generalizing m with
  | zero => cases h
  | succ rounds ih =>
    cases round H tight m with
    | halted hx hr =>
      cases (hr rounds).symm.trans h
      exact ⟨1, run_halted hx 0⟩
    | stopped _ _ hr =>
      cases (hr rounds).symm.trans h
      exact absurd rfl (hf _ rfl)
    | failed hx hl hs hr =>
      cases (hr rounds).symm.trans h
      exact ⟨1, run_failed hx (hw.reached_eq_none hl) hs 0⟩
    | went hl hs hr =>
      have hrest := ih ((hr rounds).symm.trans h)
      exact (ends_next_iff (hw.reached_eq_none hl) hs).1 hrest

/-- **A limited run can be resumed.** Take a machine in any state, a limit, and one that is no lower
or none at all.
* Where the run under the first limit has stopped at this limit, the run under the second one ends
  from there as it does from the start: with the same result, the same machine, the same host, and
  the same instructions shown to the observer, or not at all.
* Where the run under the first limit has ended with a code, the run under the second one ends with
  this code, in the same state. -/
theorem limited_run_resumes (H : Host σ) (m : Machine b σ) (hw : Widens tight wide) :
    (∀ f m', Ends H tight m (.error f) m' → f.kind = .stepLimit → ∀ r m'',
      Ends H wide m' r m'' ↔ Ends H wide m r m'') ∧
    ∀ code m', Ends H tight m (.ok code) m' → ∀ r m'',
      Ends H wide m r m'' ↔ r = .ok code ∧ m'' = m' := by
  refine ⟨fun f m' h hf r m'' => resumed_iff hw h hf, fun code m' h r m'' => ?_⟩
  have hcode : Ends H wide m (.ok code) m' := h.widened hw fun f hf => by cases hf
  constructor
  · intro h'
    obtain ⟨rfl, rfl⟩ := hcode.unique h'
    exact ⟨rfl, rfl⟩
  · rintro ⟨rfl, rfl⟩
    exact hcode

/-- The machine that exits with its seventh step, stopped after the sixth and then run on. -/
theorem leaving_resumed :
    Widens (some 6) none ∧
      Ends Simulated.host (some 6) leaving (.error (.stepLimit 6))
        (after Simulated.host 1 leaving) ∧
      Ends Simulated.host none (after Simulated.host 1 leaving) (.ok 3)
        (after Simulated.host 2 leaving) := by
  have hw : Widens (some 6) none := fun l hl => by cases hl
  have hj : Proceeds Simulated.host leaving 1 :=
    proceeds_succ_iff.2 ⟨exists_ok_of_isOk (by decide +kernel),
      proceeds_zero_iff.2 (by decide +kernel)⟩
  have hstop : Ends Simulated.host (some 6) leaving (.error (.stepLimit 6))
      (after Simulated.host 1 leaving) := (Finishes.stopped rfl hj).ends
  have he : (after Simulated.host 1 leaving).AtExit 3 :=
    ⟨none, fetch_eq_ok_iff.2 (by decide +kernel), by decide +kernel⟩
  have hend : Ends Simulated.host none leaving (.ok 3) (after Simulated.host 2 leaving) :=
    (Finishes.exited hj (fun l hl => by cases hl) he).ends
  obtain ⟨hresume, -⟩ := limited_run_resumes Simulated.host leaving hw
  exact ⟨hw, hstop, (hresume _ _ hstop rfl _ _).2 hend⟩

end Yan85.Machine
