import Yan85.Host.Basic

/-! # Hosts that cannot be told apart

`H.Mirrors ρ H'`: from states that `ρ` relates, two hosts answer every request alike, and the states
after it are related again.
-/

namespace Yan85
set_option autoImplicit false

variable {σ τ : Type}

/-- Two requests that answer alike in related states and leave related states. -/
def SameAnswers {α : Type} (ρ : σ → τ → Prop) (x : σ → α × σ) (y : τ → α × τ) : Prop :=
  ∀ s t, ρ s t → (y t).1 = (x s).1 ∧ ρ (x s).2 (y t).2

/-- All requests answer alike in states that `ρ` relates, and leave related states. -/
structure Host.Mirrors (ρ : σ → τ → Prop) (H : Host σ) (H' : Host τ) : Prop where
  openFile : ∀ path, SameAnswers ρ (H.openFile path) (H'.openFile path)
  read : ∀ fd count, SameAnswers ρ (H.read fd count) (H'.read fd count)
  write : ∀ fd data, SameAnswers ρ (H.write fd data) (H'.write fd data)
  close : ∀ fd, SameAnswers ρ (H.close fd) (H'.close fd)
  sleepRefusal : ∀ seconds, H'.sleepRefusal seconds = H.sleepRefusal seconds
  sleep : ∀ seconds s t, ρ s t → ρ (H.sleep seconds s) (H'.sleep seconds t)

theorem SameAnswers.refl {α : Type} (x : σ → α × σ) : SameAnswers Eq x x := by
  rintro s _ rfl
  exact ⟨rfl, rfl⟩

theorem Host.Mirrors.refl (H : Host σ) : Host.Mirrors Eq H H where
  openFile := fun path => .refl (H.openFile path)
  read := fun fd count => .refl (H.read fd count)
  write := fun fd data => .refl (H.write fd data)
  close := fun fd => .refl (H.close fd)
  sleepRefusal := fun _ => rfl
  sleep := by
    rintro seconds s _ rfl
    rfl

end Yan85
