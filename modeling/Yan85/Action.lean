import Yan85.Fault

/-! # Computations that may fail and keep their state

`Action S α` works on a state of type `S` and ends with a result or a fault, and in either case
with the state that it leaves behind.
-/

namespace Yan85
set_option autoImplicit false

/-- A computation on a state of type `S`; the state that it leaves is known also when it fails. -/
def Action (S α : Type) : Type := S → Except Fault α × S

namespace Action

variable {S T α β : Type}

protected def pure (x : α) : Action S α := fun s => (.ok x, s)

/-- After a fault nothing more is done. -/
protected def bind (x : Action S α) (f : α → Action S β) : Action S β := fun s =>
  match x s with
  | (.ok a, s') => f a s'
  | (.error e, s') => (.error e, s')

instance : Monad (Action S) where
  pure := Action.pure
  bind := Action.bind

/-- The failure with the cause `f`. -/
def fail (f : Fault) : Action S α := fun s => (.error f, s)

/-- The state. -/
def state : Action S S := fun s => (.ok s, s)

/-- A change of the state that cannot fail. -/
def modify (f : S → S) : Action S Unit := fun s => (.ok (), f s)

/-- A result that may be a failure; the state is not touched. -/
def lift (x : Except Fault α) : Action S α := fun s => (x, s)

/-- A computation on the part `get` of a larger state, which `put` writes back. -/
def on (get : S → T) (put : T → S → S) (x : Action T α) : Action S α := fun s =>
  let r := x (get s)
  (r.1, put r.2 s)

@[simp] theorem pure_apply (x : α) (s : S) : (pure x : Action S α) s = (.ok x, s) := rfl

theorem bind_apply (x : Action S α) (f : α → Action S β) (s : S) :
    (x >>= f) s =
      match x s with
      | (.ok a, s') => f a s'
      | (.error e, s') => (.error e, s') := rfl

theorem bind_apply_ok {x : Action S α} {f : α → Action S β} {s s' : S} {a : α}
    (h : x s = (.ok a, s')) : (x >>= f) s = f a s' := by
  rw [bind_apply, h]

theorem bind_apply_error {x : Action S α} {f : α → Action S β} {s s' : S} {e : Fault}
    (h : x s = (.error e, s')) : (x >>= f) s = (.error e, s') := by
  rw [bind_apply, h]

theorem bind_eq_ok_iff {x : Action S α} {f : α → Action S β} {s t : S} {r : β} :
    (x >>= f) s = (.ok r, t) ↔ ∃ a s', x s = (.ok a, s') ∧ f a s' = (.ok r, t) := by
  rw [bind_apply]
  rcases x s with ⟨e | a, s'⟩
  · constructor
    · intro h
      cases h
    · rintro ⟨a, s', ⟨⟩, -⟩
  · constructor
    · intro h
      exact ⟨a, s', rfl, h⟩
    · rintro ⟨_, _, ⟨⟩, h⟩
      exact h

@[simp] theorem fail_apply (f : Fault) (s : S) : (fail f : Action S α) s = (.error f, s) := rfl

@[simp] theorem state_apply (s : S) : (state : Action S S) s = (.ok s, s) := rfl

@[simp] theorem modify_apply (f : S → S) (s : S) : modify f s = (.ok (), f s) := rfl

@[simp] theorem lift_apply (x : Except Fault α) (s : S) : (lift x : Action S α) s = (x, s) := rfl

@[simp] theorem on_apply (get : S → T) (put : T → S → S) (x : Action T α) (s : S) :
    on get put x s = ((x (get s)).1, put (x (get s)).2 s) := rfl

end Action

end Yan85
