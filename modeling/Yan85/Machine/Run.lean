import Yan85.Machine.Step

/-! # Runs

`Machine.run` repeats steps until the program exits, a step fails, or the number of steps reaches a
limit. The limit counts all successful steps of the machine, those of earlier runs too. There is no
result if more rounds are needed than are allowed; each round but the last makes one step.
-/

namespace Yan85
set_option autoImplicit false

namespace Machine

variable {b : Bindings} {σ : Type}

/-- The limit, if the machine has used up its steps. -/
def reached (limit : Option Int) (m : Machine b σ) : Option Int :=
  limit.filter fun n => n ≤ m.steps

/-- Steps until the program exits, a step fails, or the limit is reached. -/
def run (H : Host σ) (limit : Option Int) :
    Nat → Machine b σ → Option (Except Fault Int × Machine b σ)
  | 0, _ => none
  | rounds + 1, m =>
    match m.exitCode with
    | some code => some (.ok code, m)
    | none =>
      match reached limit m with
      | some n => some (.error (.stepLimit n), m)
      | none =>
        match step H m with
        | (.ok _, m') => run H limit rounds m'
        | (.error f, m') => some (.error f, m')

end Machine

end Yan85
