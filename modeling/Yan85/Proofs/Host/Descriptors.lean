import Mathlib.Data.List.Induction
import Mathlib.Data.List.Nodup
import Yan85.Proofs.Host.Mirrors

/-! # The descriptors that a host has given out

* `Host.recorded`: a host that keeps a log of the descriptors that it has opened and of those that it
  was asked to close. `mirrors_recorded` says that it answers like the host without the log.
* `held? log`: the descriptors that are open after a log, the earliest first. There is no result if
  the log opens one that is open or closes one that is not.
* `count_opened`, `open_before_closed`: what such a log says about the numbers of its events.
* `Host.Allocates inUse H`: `H` opens no descriptor that is in use, and ends the use of none that it
  was not asked to close.
-/

namespace Yan85
set_option autoImplicit false

variable {σ : Type}

/-- A descriptor was opened, or the host was asked to close it. -/
inductive DescriptorEvent
  | opened (fd : Nat)
  | closed (fd : Nat)
  deriving DecidableEq

/-- The host with a log of its descriptors. A refused close is in the log, a refused open is not. -/
def Host.recorded (H : Host σ) : Host (σ × List DescriptorEvent) where
  openFile path t :=
    match H.openFile path t.1 with
    | (.ok fd, s) => (.ok fd, s, t.2 ++ [.opened fd])
    | (.error e, s) => (.error e, s, t.2)
  read fd count t := ((H.read fd count t.1).1, (H.read fd count t.1).2, t.2)
  write fd data t := ((H.write fd data t.1).1, (H.write fd data t.1).2, t.2)
  close fd t := ((H.close fd t.1).1, (H.close fd t.1).2, t.2 ++ [.closed fd])
  sleepRefusal := H.sleepRefusal
  sleepRefusal_byteValue := H.sleepRefusal_byteValue
  sleep seconds t := (H.sleep seconds t.1, t.2)

theorem mirrors_recorded (H : Host σ) : Host.Mirrors (fun s t => t.1 = s) H H.recorded where
  openFile := by
    rintro path _ ⟨s, log⟩ rfl
    simp only [Host.recorded]
    cases H.openFile path s with
    | mk r s' =>
      cases r with
      | ok fd => exact ⟨rfl, rfl⟩
      | error e => exact ⟨rfl, rfl⟩
  read := by
    rintro fd count _ ⟨s, log⟩ rfl
    exact ⟨rfl, rfl⟩
  write := by
    rintro fd data _ ⟨s, log⟩ rfl
    exact ⟨rfl, rfl⟩
  close := by
    rintro fd _ ⟨s, log⟩ rfl
    exact ⟨rfl, rfl⟩
  sleepRefusal := fun _ => rfl
  sleep := by
    rintro seconds _ ⟨s, log⟩ rfl
    rfl

theorem recorded_openFile_ok {H : Host σ} {path : List UInt8} {fd : Nat}
    {t t' : σ × List DescriptorEvent} (h : H.recorded.openFile path t = (.ok fd, t')) :
    H.openFile path t.1 = (.ok fd, t'.1) ∧ t'.2 = t.2 ++ [.opened fd] := by
  simp only [Host.recorded] at h
  cases ho : H.openFile path t.1 with
  | mk r s =>
    rw [ho] at h
    cases r with
    | ok d =>
      cases h
      exact ⟨rfl, rfl⟩
    | error e => cases h

theorem recorded_openFile_error {H : Host σ} {path : List UInt8} {e : HostFailure}
    {t t' : σ × List DescriptorEvent} (h : H.recorded.openFile path t = (.error e, t')) :
    t' = ((H.openFile path t.1).2, t.2) := by
  simp only [Host.recorded] at h
  cases ho : H.openFile path t.1 with
  | mk r s =>
    rw [ho] at h
    cases r with
    | ok d => cases h
    | error e =>
      cases h
      rfl

/-! ## Logs -/

/-- The open descriptors after one more event. -/
def heldAfter (held : List Nat) : DescriptorEvent → Option (List Nat)
  | .opened fd => if fd ∈ held then none else some (held ++ [fd])
  | .closed fd => if fd ∈ held then some (held.erase fd) else none

/-- The open descriptors after a log, the earliest first. -/
def held? (log : List DescriptorEvent) : Option (List Nat) := log.foldlM heldAfter []

theorem held?_append (log more : List DescriptorEvent) :
    held? (log ++ more) = (held? log).bind fun held => more.foldlM heldAfter held :=
  List.foldlM_append

theorem held?_snoc {log : List DescriptorEvent} {e : DescriptorEvent} {held' : List Nat} :
    held? (log ++ [e]) = some held' ↔
      ∃ held, held? log = some held ∧ heldAfter held e = some held' := by
  rw [held?_append, Option.bind_eq_some_iff]
  simp only [List.foldlM_cons, List.foldlM_nil, bind_pure]

theorem heldAfter_opened_iff {held held' : List Nat} {fd : Nat} :
    heldAfter held (.opened fd) = some held' ↔ fd ∉ held ∧ held' = held ++ [fd] := by
  unfold heldAfter
  by_cases h : fd ∈ held
  · simp [h]
  · simp [h, eq_comm]

theorem heldAfter_closed_iff {held held' : List Nat} {fd : Nat} :
    heldAfter held (.closed fd) = some held' ↔ fd ∈ held ∧ held' = held.erase fd := by
  unfold heldAfter
  by_cases h : fd ∈ held
  · simp [h, eq_comm]
  · simp [h]

theorem nodup_held {log : List DescriptorEvent} {held : List Nat} (h : held? log = some held) :
    held.Nodup := by
  -- From the end of the log: what is open before the last event is given by the log before it.
  induction log using List.reverseRecOn generalizing held with
  | nil =>
    cases h
    exact List.nodup_nil
  | append_singleton log e ih =>
    obtain ⟨before, hb, ha⟩ := held?_snoc.1 h
    have hn := ih hb
    cases e with
    | opened fd =>
      obtain ⟨hfd, rfl⟩ := heldAfter_opened_iff.1 ha
      exact List.nodup_append.2 ⟨hn, List.nodup_singleton fd, by
        rintro x hx y hy rfl
        exact hfd (List.mem_singleton.1 hy ▸ hx)⟩
    | closed fd =>
      obtain ⟨-, rfl⟩ := heldAfter_closed_iff.1 ha
      exact hn.erase fd

/-- A descriptor was opened as often as it was closed, and once more if it is open. -/
theorem count_opened {log : List DescriptorEvent} {held : List Nat} (h : held? log = some held)
    (fd : Nat) : log.count (.opened fd) = log.count (.closed fd) + held.count fd := by
  induction log using List.reverseRecOn generalizing held with
  | nil =>
    cases h
    rfl
  | append_singleton log e ih =>
    obtain ⟨before, hb, ha⟩ := held?_snoc.1 h
    have hc := ih hb
    rw [List.count_append, List.count_append]
    cases e with
    | opened d =>
      obtain ⟨-, rfl⟩ := heldAfter_opened_iff.1 ha
      by_cases hd : d = fd
      · subst hd
        simp [hc, Nat.add_assoc]
      · simp [hc, hd]
    | closed d =>
      obtain ⟨hm, rfl⟩ := heldAfter_closed_iff.1 ha
      by_cases hd : d = fd
      · subst hd
        have hp : 0 < before.count d := List.count_pos_iff.2 hm
        simp [hc, List.count_erase_self]
        omega
      · simp [hc, hd, List.count_erase_of_ne (Ne.symm hd)]

theorem mem_of_held {log : List DescriptorEvent} {held : List Nat} (h : held? log = some held)
    {fd : Nat} (hfd : fd ∈ held) : .opened fd ∈ log := by
  have hp : 0 < held.count fd := List.count_pos_iff.2 hfd
  have hc := count_opened h fd
  exact List.count_pos_iff.1 (by omega)

theorem not_mem_closed {log : List DescriptorEvent} {held : List Nat} (h : held? log = some held)
    {fd : Nat} (hfd : .opened fd ∉ log) : .closed fd ∉ log := by
  have hc := count_opened h fd
  rw [List.count_eq_zero.2 hfd] at hc
  exact List.count_eq_zero.1 (by omega)

/-- What is closed was opened and not closed since. -/
theorem open_before_closed {before rest : List DescriptorEvent} {fd : Nat} {held : List Nat}
    (h : held? (before ++ .closed fd :: rest) = some held) :
    before.count (.opened fd) = before.count (.closed fd) + 1 := by
  rw [held?_append, Option.bind_eq_some_iff] at h
  obtain ⟨held', hb, hr⟩ := h
  rw [List.foldlM_cons] at hr
  obtain ⟨held'', ha, -⟩ := Option.bind_eq_some_iff.1 hr
  have hm := (heldAfter_closed_iff.1 ha).1
  rw [count_opened hb, List.count_eq_one_of_mem (nodup_held hb) hm]

/-! ## Descriptors in use -/

/-- Opening gives a descriptor that is not in use. It is in use from then on, and no descriptor goes
out of use unless the host is asked to close it. -/
structure Host.Allocates (inUse : σ → Nat → Prop) (H : Host σ) : Prop where
  unused : ∀ path s fd s', H.openFile path s = (.ok fd, s') → ¬ inUse s fd ∧ inUse s' fd
  openFile : ∀ path s fd, inUse s fd → inUse (H.openFile path s).2 fd
  read : ∀ d count s fd, inUse s fd → inUse (H.read d count s).2 fd
  write : ∀ d data s fd, inUse s fd → inUse (H.write d data s).2 fd
  close : ∀ d s fd, fd ≠ d → inUse s fd → inUse (H.close d s).2 fd
  sleep : ∀ seconds s fd, inUse s fd → inUse (H.sleep seconds s) fd

end Yan85
