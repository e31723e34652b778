/-! # Results that may be failures

* `bind_eq_ok`, `bind_eq_error`: the two ways in which a sequence of two ends.
* `map_eq_ok_iff`, `map_eq_error_iff`, `exists_map_iff`: a change of the result leaves failures as
  they are.
* `mapError_eq_ok_iff`, `mapError_eq_error_iff`: a change of the failure leaves the result as it is.
* `ComesTo P l x`: going through `l` as long as `P` holds, one comes to `x`.
* `mapM_eq_error_iff`: a list fails with the first item that fails.
* `fails p x`: the result is a failure with the property `p`. This can be computed also where results
  cannot be compared.
-/

namespace Yan85
set_option autoImplicit false

variable {ε α β : Type}

/-! ## Sequences of two, and changed results -/

theorem bind_eq_ok {x : Except ε α} {g : α → Except ε β} {y : β} (h : (x >>= g) = .ok y) :
    ∃ a, x = .ok a ∧ g a = .ok y := by
  cases x with
  | error f => cases h
  | ok a => exact ⟨a, rfl, h⟩

theorem bind_eq_error {x : Except ε α} {g : α → Except ε β} {f : ε} (h : (x >>= g) = .error f) :
    x = .error f ∨ ∃ a, x = .ok a ∧ g a = .error f := by
  cases x with
  | error e =>
    cases h
    exact .inl rfl
  | ok a => exact .inr ⟨a, rfl, h⟩

theorem bind_eq_error_iff {x : Except ε α} {g : α → Except ε β} {f : ε} :
    (x >>= g) = .error f ↔ x = .error f ∨ ∃ a, x = .ok a ∧ g a = .error f := by
  constructor
  · exact bind_eq_error
  · rintro (rfl | ⟨a, rfl, h⟩)
    · rfl
    · exact h

theorem map_eq_error_iff {g : α → β} {x : Except ε α} {f : ε} :
    g <$> x = .error f ↔ x = .error f := by
  cases x with
  | error e =>
    constructor
    · rintro ⟨⟩
      rfl
    · rintro ⟨⟩
      rfl
  | ok a => exact ⟨nofun, nofun⟩

theorem map_eq_ok_iff {g : α → β} {x : Except ε α} {y : β} :
    g <$> x = .ok y ↔ ∃ a, x = .ok a ∧ g a = y := by
  cases x with
  | error e =>
    constructor
    · intro h
      cases h
    · rintro ⟨a, h, -⟩
      cases h
  | ok a =>
    constructor
    · intro h
      cases h
      exact ⟨a, rfl, rfl⟩
    · rintro ⟨_, ⟨⟩, rfl⟩
      rfl

theorem exists_map_iff {g : α → β} {x : Except ε α} :
    (∃ b, g <$> x = .ok b) ↔ ∃ a, x = .ok a := by
  cases x with
  | error e =>
    constructor
    · rintro ⟨b, ⟨⟩⟩
    · rintro ⟨a, ⟨⟩⟩
  | ok a => exact ⟨fun _ => ⟨a, rfl⟩, fun _ => ⟨g a, rfl⟩⟩

theorem mapError_eq_ok_iff {ε' : Type} {g : ε → ε'} {x : Except ε α} {y : α} :
    x.mapError g = .ok y ↔ x = .ok y := by
  cases x with
  | error e => exact ⟨nofun, nofun⟩
  | ok a =>
    constructor
    · rintro ⟨⟩
      rfl
    · rintro ⟨⟩
      rfl

theorem mapError_eq_error_iff {ε' : Type} {g : ε → ε'} {x : Except ε α} {f : ε'} :
    x.mapError g = .error f ↔ ∃ e, x = .error e ∧ g e = f := by
  cases x with
  | error e =>
    constructor
    · rintro ⟨⟩
      exact ⟨e, rfl, rfl⟩
    · rintro ⟨_, ⟨⟩, rfl⟩
      rfl
  | ok a =>
    constructor
    · rintro ⟨⟩
    · rintro ⟨e, ⟨⟩, -⟩

/-! ## Lists -/

/-- The item `x` of `l` stands behind items that all have the property `P`. -/
def ComesTo (P : α → Prop) (l : List α) (x : α) : Prop :=
  ∃ before rest, l = before ++ x :: rest ∧ ∀ y ∈ before, P y

theorem comesTo_cons_iff {P : α → Prop} {y x : α} {l : List α} :
    ComesTo P (y :: l) x ↔ y = x ∨ P y ∧ ComesTo P l x := by
  constructor
  · rintro ⟨before, rest, hl, hb⟩
    cases before with
    | nil =>
      cases hl
      exact .inl rfl
    | cons z before =>
      cases hl
      exact .inr ⟨hb y List.mem_cons_self, before, rest, rfl,
        fun w hw => hb w (List.mem_cons_of_mem y hw)⟩
  · rintro (rfl | ⟨hy, before, rest, rfl, hb⟩)
    · exact ⟨[], l, rfl, fun z hz => absurd hz List.not_mem_nil⟩
    · refine ⟨y :: before, rest, rfl, fun z hz => ?_⟩
      obtain rfl | hz := List.mem_cons.1 hz
      · exact hy
      · exact hb z hz

theorem ComesTo.mem {P : α → Prop} {l : List α} {x : α} (h : ComesTo P l x) : x ∈ l := by
  obtain ⟨before, rest, rfl, -⟩ := h
  exact List.mem_append_right before List.mem_cons_self

theorem mapM_eq_error_iff {g : α → Except ε β} {l : List α} {f : ε} :
    l.mapM g = .error f ↔ ∃ x, ComesTo (fun y => ∃ r, g y = .ok r) l x ∧ g x = .error f := by
  induction l with
  | nil =>
    constructor
    · intro h
      cases h
    · rintro ⟨x, h, -⟩
      exact absurd h.mem List.not_mem_nil
  | cons a l ih =>
    rw [List.mapM_cons]
    simp only [comesTo_cons_iff]
    constructor
    · intro h
      obtain h | ⟨r, hr, h⟩ := bind_eq_error h
      · exact ⟨a, .inl rfl, h⟩
      · obtain h | ⟨rs, -, h⟩ := bind_eq_error h
        · obtain ⟨x, hx, hf⟩ := ih.1 h
          exact ⟨x, .inr ⟨⟨r, hr⟩, hx⟩, hf⟩
        · cases h
    · rintro ⟨x, rfl | ⟨⟨r, hr⟩, hx⟩, hf⟩
      · rw [hf]
        rfl
      · have h := ih.2 ⟨x, hx, hf⟩
        rw [hr, h]
        rfl

theorem mapM_eq_ok {g : α → Except ε β} {l : List α} {rs : List β} (h : l.mapM g = .ok rs) :
    ∀ r ∈ rs, ∃ x ∈ l, g x = .ok r := by
  induction l generalizing rs with
  | nil =>
    cases h
    exact fun r hr => absurd hr List.not_mem_nil
  | cons a l ih =>
    rw [List.mapM_cons] at h
    obtain ⟨r, hr, h⟩ := bind_eq_ok h
    obtain ⟨rs', hrs, h⟩ := bind_eq_ok h
    cases h
    intro r' hr'
    obtain rfl | hr' := List.mem_cons.1 hr'
    · exact ⟨a, List.mem_cons_self, hr⟩
    · obtain ⟨x, hx, hg⟩ := ih hrs r' hr'
      exact ⟨x, List.mem_cons_of_mem a hx, hg⟩

theorem exists_mapM_iff {g : α → Except ε β} {l : List α} :
    (∃ rs, l.mapM g = .ok rs) ↔ ∀ x ∈ l, ∃ r, g x = .ok r := by
  induction l with
  | nil => exact ⟨fun _ x hx => absurd hx List.not_mem_nil, fun _ => ⟨[], rfl⟩⟩
  | cons a l ih =>
    rw [List.forall_mem_cons, ← ih, List.mapM_cons]
    constructor
    · rintro ⟨rs, h⟩
      obtain ⟨r, hr, h⟩ := bind_eq_ok h
      obtain ⟨rs', hrs, -⟩ := bind_eq_ok h
      exact ⟨⟨r, hr⟩, rs', hrs⟩
    · rintro ⟨⟨r, hr⟩, rs, hrs⟩
      rw [hr, hrs]
      exact ⟨r :: rs, rfl⟩

/-! ## Results that are computed -/

/-- Whether a result is a failure with the property `p`. -/
def fails (p : ε → Bool) : Except ε α → Bool
  | .error f => p f
  | .ok _ => false

theorem exists_error_of_fails {p : ε → Bool} {x : Except ε α} (h : fails p x = true) :
    ∃ f, x = .error f ∧ p f = true := by
  cases x with
  | error f => exact ⟨f, rfl, h⟩
  | ok a => cases h

/-- The result of a computation with a state, known without the state. -/
theorem exists_ok_of_toOption {S : Type} {x : Except ε α × S} {a : α}
    (h : x.1.toOption = some a) : ∃ s, x = (.ok a, s) := by
  obtain ⟨e | a', s⟩ := x
  · cases h
  · cases h
    exact ⟨s, rfl⟩

theorem exists_ok_of_isOk {x : Except ε α} (h : x.isOk = true) : ∃ a, x = .ok a := by
  cases x with
  | error f => cases h
  | ok a => exact ⟨a, rfl⟩

end Yan85
