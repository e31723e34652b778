/-! # Finite types whose members have names

* `Enumerated`: a type listed in full, each member under a name of its own.
* `ofName?`: the member of a given name; `ofName?_eq_some_iff` says that it inverts `name`.
-/

namespace Yan85
set_option autoImplicit false

/-- A finite type listed in full, without repetition, each member under a name of its own. -/
class Enumerated (α : Type) where
  all : List α
  name : α → String
  mem_all : ∀ a, a ∈ all
  all_nodup : all.Nodup
  name_injective : ∀ a b, name a = name b → a = b

namespace Enumerated

variable {α : Type} [Enumerated α]

/-- The member called `s`. -/
def ofName? (s : String) : Option α := all.find? fun a => name a == s

theorem ofName?_name (a : α) : ofName? (name a) = some a := by
  unfold ofName?
  cases h : (all : List α).find? fun x => name x == name a with
  | none => simpa using (List.find?_eq_none.1 h) a (mem_all a)
  | some b =>
    have := List.find?_some h
    rw [name_injective b a (by simpa using this)]

theorem name_of_ofName? {s : String} {a : α} (h : ofName? s = some a) : name a = s := by
  simpa using List.find?_some h

theorem ofName?_eq_some_iff {s : String} {a : α} : ofName? s = some a ↔ name a = s :=
  ⟨name_of_ofName?, fun h => h ▸ ofName?_name a⟩

end Enumerated

end Yan85
