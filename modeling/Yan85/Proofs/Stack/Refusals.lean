import Yan85.Bindings.Standard
import Yan85.Proofs.Machine.Actions

/-! # Pushes and pops that fail

* `Misses st rf`: a pop from `st` is let through and finds no cell where it has moved `S`. No pop
  misses on a stack with a cell for every byte.
* `push_error`, `pop_error`: how a push of any integer and a pop fail on a stack of any size, and
  what they leave.
* `failed_pop_keeps_iff`: a push that fails leaves everything as it was, and so does a pop that
  fails unless it misses; then it has moved `S` down.
-/

namespace Yan85.Stack
set_option autoImplicit false

variable {b : Bindings} {s s' : Stack × RegisterFile b} {f : Fault}

/-- A pop is let through, but the stack has no cell below `S`. -/
def Misses (st : Stack) (rf : RegisterFile b) : Prop :=
  ¬ st.Empty rf ∧ st.memory.size ≤ (rf.get .S - 1).toNat

theorem not_misses {st : Stack} (hs : addressSpaceSize ≤ st.memory.size) (rf : RegisterFile b) :
    ¬ st.Misses rf := by
  rintro ⟨-, hle⟩
  have hlt := (rf.get .S - 1).toNat_lt
  unfold addressSpaceSize at hs
  omega

/-! ## How they fail -/

/-- A push moves `S` only after it has written. -/
theorem push_error {v : Int} (h : push v s = (.error f, s')) :
    s' = s ∧ (f.kind = .stackOverflow ∨ f.kind = .outOfBounds ∨ f.kind = .value) := by
  obtain ⟨st, rf⟩ := s
  unfold push at h
  simp only at h
  by_cases hf : st.Full rf
  · rw [if_pos hf] at h
    cases h
    exact ⟨rfl, .inl rfl⟩
  · rw [if_neg hf] at h
    cases hw : st.memory.write (byteValue (rf.get .S)) v with
    | ok mem =>
      rw [hw] at h
      cases h
    | error e =>
      rw [hw] at h
      cases h
      exact ⟨rfl, .inr (Machine.kind_of_memory_write hw)⟩

/-- A pop moves `S` before it reads. -/
theorem pop_of_misses (h : s.1.Misses s.2) :
    pop s = (.error (.addressOutside (byteValue (s.2.get .S - 1)) s.1.memory.extent),
      s.1, s.2.set .S (s.2.get .S - 1)) := by
  obtain ⟨he, hle⟩ := h
  unfold pop
  simp only
  rw [if_neg he, Memory.read_byte, if_neg (Nat.not_lt.2 hle)]

theorem pop_error (h : pop s = (.error f, s')) :
    f = .stackUnderflow ∧ s' = s ∨ s.1.Misses s.2 := by
  obtain ⟨st, rf⟩ := s
  by_cases he : st.Empty rf
  · unfold pop at h
    simp only at h
    rw [if_pos he] at h
    cases h
    exact .inl ⟨rfl, rfl⟩
  · refine .inr ⟨he, Nat.le_of_not_lt fun hlt => ?_⟩
    unfold pop at h
    simp only at h
    rw [if_neg he, Memory.read_byte, if_pos hlt] at h
    cases h

theorem set_pred_ne (rf : RegisterFile b) : rf.set .S (rf.get .S - 1) ≠ rf := by
  intro h
  have hS := congrArg (fun rf => rf.get .S) h
  rw [RegisterFile.get_set_self] at hS
  have hn := congrArg UInt8.toNat hS
  rw [UInt8.toNat_sub] at hn
  have hlt := (rf.get .S).toNat_lt
  simp only [UInt8.toNat_one] at hn
  omega

/-- **A push or a pop that fails keeps everything, unless the pop misses.** On a stack of any size,
strict or wrapping, with any cells and registers: a push of any integer that fails leaves the stack
with its record and all registers as they were. So does a pop, except where it is let through and
finds no cell; such a pop fails with the address that it has moved `S` to, and keeps the rest. This
needs a stack of less than 256 cells. -/
theorem failed_pop_keeps_iff (s : Stack × RegisterFile b) :
    (∀ (v : Int) f s', push v s = (.error f, s') →
      s' = s ∧ (f.kind = .stackOverflow ∨ f.kind = .outOfBounds ∨ f.kind = .value)) ∧
    ((∀ f s', pop s = (.error f, s') → s' = s ∧ f.kind = .stackUnderflow) ↔ ¬ s.1.Misses s.2) ∧
    (s.1.Misses s.2 →
      pop s = (.error (.addressOutside (byteValue (s.2.get .S - 1)) s.1.memory.extent),
        s.1, s.2.set .S (s.2.get .S - 1))) ∧
    (addressSpaceSize ≤ s.1.memory.size → ¬ s.1.Misses s.2) := by
  refine ⟨fun v f s' => push_error, ⟨fun h hm => ?_, fun hm f s' h => ?_⟩, pop_of_misses,
    fun hs => not_misses hs s.2⟩
  · obtain ⟨hsame, -⟩ := h _ _ (pop_of_misses hm)
    exact set_pred_ne s.2 (congrArg Prod.snd hsame)
  · obtain ⟨rfl, hsame⟩ | hmiss := pop_error h
    · exact ⟨hsame, rfl⟩
    · exact absurd hmiss hm

/-- A stack of one cell, with `S` far behind it. -/
def oneCell : Stack × RegisterFile .standard :=
  (⟨.ofSize .stack 1, false⟩, (RegisterFile.zero .standard).set .S 5)

/-- The pop finds no cell at the address 4 and leaves `S` there. -/
theorem oneCell_moves :
    ∃ f s', pop oneCell = (.error f, s') ∧ f.kind = .outOfBounds ∧ oneCell.2.get .S = 5 ∧
      s'.2.get .S = 4 ∧ s' ≠ oneCell := by
  have hm : oneCell.1.Misses oneCell.2 := ⟨by decide +kernel, by decide +kernel⟩
  refine ⟨_, _, pop_of_misses hm, rfl, by decide +kernel, by decide +kernel, fun h => ?_⟩
  exact set_pred_ne oneCell.2 (congrArg Prod.snd h)

end Yan85.Stack
