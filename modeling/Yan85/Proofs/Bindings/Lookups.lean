import Mathlib.Data.List.Nodup
import Yan85.Machine.Syscall

/-! # Bytes and the names bound to them

* `boundRegister?_byteValue_iff`, `boundMnemonic?_byteValue_iff`, `ofCode?_byteValue_iff`: the tables
  of an encoding are read backwards without ambiguity.
* `register_ne_zero`: no register is bound to the byte of a missing one.
* `Layout.place_injective`, `Layout.exists_place`: each of the three bytes of an instruction belongs
  to one field.
-/

namespace Yan85
set_option autoImplicit false

/-! ## Tables -/

/-- In a table of distinct bytes, the first member with a byte is the only one. -/
theorem Table.Distinct.firstWith?_byte_iff {α : Type} [Enumerated α] [DecidableEq α]
    {t : Table α UInt8} (h : t.Distinct) {x : UInt8} {a : α} :
    (t.firstWith? fun y => byteValue y == byteValue x) = some a ↔ t.get a = x := by
  constructor
  · intro hf
    exact byteValue_injective (beq_iff_eq.1 (Table.firstWith?_eq_some hf))
  · rintro rfl
    cases hf : t.firstWith? fun y => byteValue y == byteValue (t.get a) with
    | none =>
      have hn := Table.firstWith?_eq_none_iff.1 hf a
      rw [beq_self_eq_true] at hn
      cases hn
    | some c =>
      have hc := byteValue_injective (beq_iff_eq.1 (Table.firstWith?_eq_some hf))
      rw [h.get_injective hc]

namespace Bindings

variable {b : Bindings}

theorem boundRegister?_byteValue_iff {x : UInt8} {r : Register} :
    b.boundRegister? (byteValue x) = some r ↔ b.registers.get r = x :=
  b.registers_distinct.firstWith?_byte_iff

theorem boundMnemonic?_byteValue_iff {x : UInt8} {m : Mnemonic} :
    b.boundMnemonic? (byteValue x) = some m ↔ b.opcodes.get m = x :=
  b.opcodes_distinct.firstWith?_byte_iff

theorem boundSyscall?_byteValue_iff {x : UInt8} {s : Syscall} :
    b.boundSyscall? (byteValue x) = some s ↔ b.syscalls.get s = x :=
  b.syscalls_distinct.firstWith?_byte_iff

theorem register_ne_zero (b : Bindings) (r : Register) : b.registers.get r ≠ 0 :=
  (b.registers_single r).1

end Bindings

theorem Syscall.ofCode?_byteValue_iff {b : Bindings} {x : UInt8} {s : Syscall} :
    Syscall.ofCode? b (byteValue x) = some s ↔ b.syscalls.get s = x := by
  unfold Syscall.ofCode?
  constructor
  · intro h
    have hs := List.find?_some h
    exact byteValue_injective (beq_iff_eq.1 hs)
  · rintro rfl
    cases hf : (Enumerated.all : List Syscall).find? fun q =>
        byteValue (b.syscalls.get q) == byteValue (b.syscalls.get s) with
    | none =>
      have hn := List.find?_eq_none.1 hf s (Enumerated.mem_all s)
      exact absurd (beq_self_eq_true _) hn
    | some q =>
      have hq := List.find?_some hf
      rw [b.syscalls_distinct.get_injective (byteValue_injective (beq_iff_eq.1 hq))]

/-! ## The layout of an instruction -/

namespace Layout

theorem place_injective (l : Layout) {f g : Field} (h : l.place f = l.place g) : f = g := by
  have hs : ∀ f, (l.table.get f).smallIndex? = some (l.place f) := fun f => by simp [place]
  refine List.inj_on_of_nodup_map l.permutes.2 (Enumerated.mem_all f) (Enumerated.mem_all g) ?_
  rw [hs, hs, h]

/-- Three fields fill the three places. -/
theorem exists_place (l : Layout) (k : Fin 3) : ∃ f, l.place f = k := by
  have h1 : l.place .op ≠ l.place .first := fun h => by cases l.place_injective h
  have h2 : l.place .op ≠ l.place .second := fun h => by cases l.place_injective h
  have h3 : l.place .first ≠ l.place .second := fun h => by cases l.place_injective h
  have hk : l.place .op = k ∨ l.place .first = k ∨ l.place .second = k := by omega
  obtain h | h | h := hk
  · exact ⟨.op, h⟩
  · exact ⟨.first, h⟩
  · exact ⟨.second, h⟩

end Layout

end Yan85
