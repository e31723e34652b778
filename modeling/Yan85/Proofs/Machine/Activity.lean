import Yan85.Proofs.Host.Simulated
import Yan85.Proofs.Machine.Accesses
import Yan85.Proofs.Machine.Failure

/-! # The accesses of the snapshots replay the run

* `contents`: the cells of both memories of a machine.
* `Evolves.replay`: what an instruction records replays what it does to the cells.
* `written_outcomes`: the writings of all snapshots of a run lead from the first contents to the
  last.
* `activity_replays`: both for every state that a machine reaches, with the exact accesses of each
  snapshot.
-/

namespace Yan85.Machine
set_option autoImplicit false

variable {b : Bindings} {σ : Type} {H : Host σ} {m m' : Machine b σ}

/-- The cells of both memories. -/
def contents (m : Machine b σ) : Contents := ⟨m.memory.cells, m.stack.memory.cells⟩

/-- The accesses in the snapshot of a step. A failed step has none. -/
def recorded : Except Fault Snapshot → List Access
  | .ok s => s.accesses
  | .error _ => []

/-! ## One step -/

theorem Evolves.replay (h : m.Evolves m') (hm : m.Sound) (hl : m.memory.log = [])
    (hl' : m.stack.memory.log = []) : m.contents.replay m'.accesses = some m'.contents := by
  obtain ⟨log, h1, h2⟩ := h.memory.records
  obtain ⟨log', h3, h4⟩ := h.stack.records
  rw [hm.memorySpace] at h2
  rw [hm.stackSpace] at h4
  -- The accesses to the stack come last, and those to the memory have left its cells alone.
  unfold accesses
  rw [h1, h3, hl, hl', List.nil_append, List.nil_append,
    Contents.replay_append (h2 m.contents rfl) log', h4 _ rfl]
  rfl

/-- The snapshot of a step tells the accesses of its instruction, and they replay the step. -/
theorem step_replays (hm : m.Sound) {s : Snapshot} (h : step H m = (.ok s, m')) :
    m.fetch = .ok s.instruction ∧
      s.accesses = accessesOf H (m.begun s.instruction) s.instruction ∧
      m.contents.replay s.accesses = some m'.contents := by
  have hb : ∀ i, (m.begun i).Sound := fun i => (keeps_begun m i).sound hm
  cases step_eq_iff.1 h with
  | done _ hf he =>
    have ha := accesses_of_execute (hb _) rfl rfl he (.inl rfl)
    exact ⟨hf, ha, (execute_evolves he).replay (hb _) rfl rfl⟩
  | exited _ hf he =>
    have ha := accesses_of_execute (hb _) rfl rfl he (.inr ⟨_, rfl⟩)
    exact ⟨hf, ha, (execute_evolves he).replay (hb _) rfl rfl⟩

/-- What has been recorded before a step has no part in its result. -/
theorem step_clearLogs (H : Host σ) (m : Machine b σ) :
    (step H m.clearLogs).1 = (step H m).1 := by
  have hx : m.clearLogs.exitCode = m.exitCode := rfl
  have hc : m.clearLogs.clearLogs = m.clearLogs := rfl
  unfold step
  rw [hx]
  cases m.exitCode with
  | some code => rfl
  | none =>
    simp only
    rw [hc]

/-! ## A run -/

theorem contents_of_failed (hm : m.Sound) (hp : ∀ i ∈ m.program, i.IsProper) (hH : H.Honest)
    {f : Fault} (h : step H m = (.error f, m')) : m'.contents = m.contents := by
  have hc := core_of_step hm.stackSize hp h fun _ => hH
  have hk : m'.core.contents = m.core.contents := by
    rw [hc]
    split
    · rfl
    · rfl
  exact hk

theorem written_recorded (hm : m.Sound) (hp : ∀ i ∈ m.program, i.IsProper) (hH : H.Honest) :
    m.contents.written (recorded (step H m).1) = (next H m).contents := by
  unfold next
  cases hs : step H m with
  | mk r m' =>
    cases r with
    | ok s => exact Contents.written_of_replay (step_replays hm hs).2.2
    | error f => exact (contents_of_failed hm hp hH hs).symm

theorem written_outcomes (hm : m.Sound) (hp : ∀ i ∈ m.program, i.IsProper) (hH : H.Honest)
    (n : Nat) :
    m.contents.written ((outcomes H n m).flatMap recorded) = (after H n m).contents := by
  induction n generalizing m with
  | zero => rfl
  | succ n ih =>
    have hk := keeps_next H m
    rw [outcomes, List.flatMap_cons, Contents.written_append, written_recorded hm hp hH,
      ih (hk.sound hm) (hk.proper hp), after_succ]

/-- **The recorded accesses replay the run.** In every state that a machine reaches, a successful
step tells exactly the accesses of its instruction, whatever has been recorded before, and going
through them leads from the cells before the step to those after it. The writings of a whole run of
proper instructions, with its failed steps, lead from the first cells to the last. -/
theorem activity_replays (H : Host σ) (m : Machine b σ) (hm : m.Sound) (n : Nat) :
    (∀ s m', step H (after H n m) = (.ok s, m') →
      (after H n m).fetch = .ok s.instruction ∧
        s.accesses = accessesOf H ((after H n m).begun s.instruction) s.instruction ∧
        (after H n m).contents.replay s.accesses = some m'.contents) ∧
      (step H (after H n m).clearLogs).1 = (step H (after H n m)).1 ∧
      ((∀ i ∈ m.program, i.IsProper) → H.Honest →
        m.contents.written ((outcomes H n m).flatMap recorded) = (after H n m).contents) := by
  refine ⟨fun s m' h => ?_, step_clearLogs H _, fun hp hH => written_outcomes hm hp hH n⟩
  exact step_replays ((keeps_after H n m).sound hm) h

/-- A machine that sets `B`, stores it, and then goes on behind its program. -/
def storing : Machine .standard Simulated :=
  .fresh .standard [.imm (some .B) 7, .stm (some .A) (some .B)] (.ofSize .main 16) false .empty

theorem storing_replays :
    (∃ s m', step Simulated.host (after Simulated.host 1 storing) = (.ok s, m') ∧
      s.accesses = [⟨.main, 0, 7, .write⟩] ∧
      (after Simulated.host 1 storing).contents.replay s.accesses = some m'.contents) ∧
    storing.contents.written ((outcomes Simulated.host 3 storing).flatMap recorded) =
      (after Simulated.host 3 storing).contents := by
  constructor
  · have h := activity_replays Simulated.host storing (sound_fresh ..) 1
    have he : recorded (step Simulated.host (after Simulated.host 1 storing)).1 =
        [⟨.main, 0, 7, .write⟩] := by decide +kernel
    cases hs : step Simulated.host (after Simulated.host 1 storing) with
    | mk r m' =>
      rw [hs] at he
      cases r with
      | ok s => exact ⟨s, m', rfl, he, (h.1 s m' hs).2.2⟩
      | error f => cases he
  · have h := activity_replays Simulated.host storing (sound_fresh ..) 3
    exact h.2.2 (by decide) Simulated.honest

end Yan85.Machine
