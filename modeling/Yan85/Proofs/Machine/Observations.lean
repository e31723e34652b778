import Yan85.CommandLine.Line
import Yan85.Proofs.Machine.Runs

/-! # What a machine shows and tells

* `fetches H n m`: the instructions that `n` steps from `m` fetch. `observed_after` says that these are
  the ones that the observer is shown.
* `warnings m`: the warnings among what a machine has told. `warnings_after` says that no step warns.
* `refusals H es s`: the warnings for descriptors that the host refuses to close. `diagnostics_close`
  says that closing tells of these and of nothing else.
-/

namespace Yan85.Machine
set_option autoImplicit false

variable {b : Bindings} {σ : Type} {H : Host σ} {m m' : Machine b σ}

/-! ## Observed instructions -/

/-- The instruction that the next step fetches, if it fetches one. -/
def fetched (m : Machine b σ) : List Instruction :=
  match m.exitCode, m.fetch with
  | none, .ok i => [i]
  | _, _ => []

/-- The instructions that `n` steps fetch, in order. -/
def fetches (H : Host σ) : Nat → Machine b σ → List Instruction
  | 0, _ => []
  | n + 1, m => m.fetched ++ fetches H n (next H m)

/-- The warnings among what a machine has told. -/
def warnings (m : Machine b σ) : List Diagnostic := m.diagnostics.toList.filter (·.isWarning)

/-- Neither the observer has been shown anything, nor has there been a warning. -/
structure Unshown (m m' : Machine b σ) : Prop where
  observed : m'.observed = m.observed
  warnings : m'.warnings = m.warnings

theorem warnings_tell {d : Diagnostic} (h : d.isWarning = false) (m : Machine b σ) :
    (m.tell d).warnings = m.warnings := by
  simp [warnings, tell, h]

theorem tolerant_unshown : Tolerant (Unshown : Machine b σ → Machine b σ → Prop) where
  refl := fun _ => ⟨rfl, rfl⟩
  trans := fun h h' => ⟨h'.observed.trans h.observed, h'.warnings.trans h.warnings⟩
  registers := fun _ _ => ⟨rfl, rfl⟩
  memory := fun _ _ _ => ⟨rfl, rfl⟩
  stack := fun _ _ _ _ => ⟨rfl, rfl⟩
  called := fun m _ _ _ _ => ⟨rfl, warnings_tell rfl m⟩

theorem Calls.unshown {x y z : Int} {s : Syscall} {r : Except Fault Int}
    (h : Calls H m x y z s r m') : m.Unshown m' := by
  cases h with
  | opened => exact ⟨rfl, warnings_tell rfl _⟩
  | _ => exact ⟨rfl, rfl⟩

theorem execute_unshown {i : Instruction} {r : Except Fault Unit}
    (h : execute H i m = (r, m')) : m.Unshown m' :=
  tolerant_unshown.execute (fun _ _ _ _ _ _ _ hc => hc.unshown) h

theorem shown_next (H : Host σ) (m : Machine b σ) :
    (next H m).observed.toList = m.observed.toList ++ m.fetched ∧
      (next H m).warnings = m.warnings := by
  have hbegun : ∀ {i r m'}, execute H i (m.begun i) = (r, m') →
      m'.observed.toList = m.observed.toList ++ [i] ∧ m'.warnings = m.warnings := by
    intro i r m' he
    have hu := execute_unshown he
    refine ⟨?_, hu.warnings⟩
    rw [hu.observed]
    exact Array.toList_push
  refine next_of_steps (P := fun m' => m'.observed.toList = m.observed.toList ++ m.fetched ∧
    m'.warnings = m.warnings) fun r m' hs => ?_
  unfold fetched
  cases hs with
  | halted hx =>
    rw [hx]
    exact ⟨(List.append_nil _).symm, rfl⟩
  | unfetched hx hf =>
    rw [hx, hf]
    exact ⟨(List.append_nil _).symm, rfl⟩
  | done hx hf he | exited hx hf he =>
    rw [hx, hf]
    obtain ⟨ho, hw⟩ := hbegun he
    exact ⟨ho, (warnings_tell rfl _).trans hw⟩
  | failed hx hf he =>
    rw [hx, hf]
    exact hbegun he

/-- The observer is shown what the steps fetch, the instruction of a last step that fails or exits
among them. -/
theorem observed_after (H : Host σ) (n : Nat) (m : Machine b σ) :
    (after H n m).observed.toList = m.observed.toList ++ fetches H n m := by
  induction n generalizing m with
  | zero => exact (List.append_nil _).symm
  | succ n ih =>
    rw [after_succ, ih, (shown_next H m).1, List.append_assoc]
    rfl

theorem warnings_after (H : Host σ) (n : Nat) (m : Machine b σ) :
    (after H n m).warnings = m.warnings :=
  after_invariant (P := fun m' => m'.warnings = m.warnings)
    (fun m' h => (shown_next H m').2.trans h) n rfl

/-! ## Refused closes -/

/-- The warnings for those of the descriptors that the host refuses to close. -/
def refusals (H : Host σ) : List (Nat × List UInt8) → σ → List Diagnostic
  | [], _ => []
  | e :: es, s =>
    match H.close e.1 s with
    | (.ok _, s') => refusals H es s'
    | (.error f, s') => .notClosed e.1 e.2 f :: refusals H es s'

theorem isWarning_of_mem_refusals {es : List (Nat × List UInt8)} {s : σ} {d : Diagnostic}
    (h : d ∈ refusals H es s) : d.isWarning = true := by
  induction es generalizing s with
  | nil => cases h
  | cons e es ih =>
    unfold refusals at h
    split at h
    · exact ih h
    · obtain rfl | h := List.mem_cons.1 h
      · rfl
      · exact ih h

theorem diagnostics_foldl_closeOne (es : List (Nat × List UInt8)) (m : Machine b σ) :
    (es.foldl (closeOne H) m).diagnostics.toList =
      m.diagnostics.toList ++ refusals H es m.host := by
  induction es generalizing m with
  | nil => exact (List.append_nil _).symm
  | cons e es ih =>
    rw [List.foldl_cons, ih]
    cases hc : H.close e.1 m.host with
    | mk r s =>
      cases r with
      | ok u => simp only [closeOne, refusals, hc]
      | error f => simp only [closeOne, refusals, hc, tell, Array.toList_push, List.append_assoc,
          List.cons_append, List.nil_append]

theorem diagnostics_close (H : Host σ) (m : Machine b σ) :
    (close H m).diagnostics.toList =
      m.diagnostics.toList ++ refusals H m.descriptors.entries.reverse m.host :=
  diagnostics_foldl_closeOne m.descriptors.entries.reverse m

end Yan85.Machine
