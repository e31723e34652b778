import Mathlib.Logic.Function.Basic
import Yan85.Proofs.Host.Simulated

/-! # The streams of the simulated host

* `Stream.Unhindered`: the stream refuses no read, and limits none.
* `Gave fd data s s'`: from `s` to `s'` the descriptor gave `data`, and no other stream changed.
* `Took fd data s s'`: from `s` to `s'` the descriptor took `data`, and no stream changed.
* `gave_of_read`, `took_of_write`, `Gave.trans`, `Took.trans`: each transfer is of this kind, and so
  is a sequence of transfers. Short ones lose nothing.
* `rest_eq_nil_of_read`, `pos_of_write`: a transfer that is not limited to nothing moves something,
  if there is anything to move.
-/

namespace Yan85
set_option autoImplicit false

/-- The stream refuses no read, and limits none. -/
structure Stream.Unhindered (stream : Stream) : Prop where
  granted : stream.readRefusal = none
  unlimited : stream.readMost = none

theorem Stream.Unhindered.behind {stream : Stream} (hu : stream.Unhindered) (rest : List UInt8) :
    Stream.Unhindered { stream with rest := rest } :=
  ⟨hu.granted, hu.unlimited⟩

namespace Simulated

variable {s s' s1 : Simulated} {fd : Int} {stream : Stream} {data xs ys : List UInt8}

theorem capped_eq_zero_iff {limit : Option Nat} {n : Nat} :
    capped limit n = 0 ↔ limit = some 0 ∨ n = 0 := by
  cases limit with
  | none => simp [capped]
  | some k =>
    have h : capped (some k) n = min n k := rfl
    rw [h, Option.some.injEq]
    omega

/-! ## Reading -/

theorem exists_read (hs : s.streams.find? fd = some stream) (hu : stream.Unhindered) (n : Nat) :
    ∃ s', host.read fd n s = (.ok (stream.rest.take n), s') := by
  refine ⟨_, read_eq_ok_iff.2 ⟨stream, hs, hu.granted, ?_, rfl⟩⟩
  rw [hu.unlimited]
  rfl

/-- From `s` to `s'` the descriptor gave `data`: they are the first of the bytes that were still to
be read, and those behind them still are. No other stream changed. -/
def Gave (fd : Int) (data : List UInt8) (s s' : Simulated) : Prop :=
  ∃ stream rest, s.streams.find? fd = some stream ∧ stream.rest = data ++ rest ∧
    s'.streams.find? = Function.update s.streams.find? fd (some { stream with rest := rest })

theorem gave_nil (hs : s.streams.find? fd = some stream) : Gave fd [] s s := by
  refine ⟨stream, stream.rest, hs, rfl, ?_⟩
  have he := Function.update_eq_self fd s.streams.find?
  rw [hs] at he
  exact he.symm

theorem Gave.find? (h : Gave fd data s s') (hs : s.streams.find? fd = some stream) :
    ∃ rest, stream.rest = data ++ rest ∧
      s'.streams.find? fd = some { stream with rest := rest } := by
  obtain ⟨stream', rest, hs', hrest, hfind⟩ := h
  cases hs.symm.trans hs'
  refine ⟨rest, hrest, ?_⟩
  rw [hfind, Function.update_self]

theorem Gave.trans (h : Gave fd xs s s1) (h' : Gave fd ys s1 s') : Gave fd (xs ++ ys) s s' := by
  obtain ⟨stream, rest, hs, hrest, hfind⟩ := h
  obtain ⟨stream1, rest1, hs1, hrest1, hfind1⟩ := h'
  rw [hfind, Function.update_self] at hs1
  cases hs1
  refine ⟨stream, rest1, hs, ?_, ?_⟩
  · rw [hrest, List.append_assoc, ← hrest1]
  · rw [hfind1, hfind, Function.update_idem]

/-- What is still to be read depends on what was given alone. -/
theorem Gave.unique (h : Gave fd data s s') (h1 : Gave fd data s s1) :
    s'.streams.find? = s1.streams.find? := by
  obtain ⟨stream, rest, hs, hrest, hfind⟩ := h
  obtain ⟨stream1, rest1, hs1, hrest1, hfind1⟩ := h1
  cases hs.symm.trans hs1
  obtain rfl : rest = rest1 := List.append_cancel_left (hrest.symm.trans hrest1)
  rw [hfind, hfind1]

theorem gave_of_read {count : Int} (h : host.read fd count s = (.ok data, s')) :
    Gave fd data s s' := by
  obtain ⟨stream, hs, -, rfl, rfl⟩ := read_eq_ok_iff.1 h
  refine ⟨stream, _, hs, (List.take_append_drop _ _).symm, ?_⟩
  funext d
  rw [Ordered.find?_insert, Function.update_apply]

/-- A read that may give a byte gives none only where none is left. -/
theorem rest_eq_nil_of_read {count : Int} (h : host.read fd count s = (.ok [], s'))
    (hs : s.streams.find? fd = some stream) (hl : stream.readMost ≠ some 0) (hc : 0 < count) :
    stream.rest = [] := by
  obtain ⟨stream', hs', -, hdata, -⟩ := read_eq_ok_iff.1 h
  cases hs.symm.trans hs'
  obtain hz | hrest := List.take_eq_nil_iff.1 hdata.symm
  · obtain hm | hn := capped_eq_zero_iff.1 hz
    · exact absurd hm hl
    · omega
  · exact hrest

/-! ## Writing -/

/-- The bytes that a descriptor has taken. -/
def taken (s : Simulated) (fd : Int) : List UInt8 := (s.output.find? fd).getD []

/-- From `s` to `s'` the descriptor took `data` behind what it had taken before. No other descriptor
took anything, and no stream changed. -/
structure Took (fd : Int) (data : List UInt8) (s s' : Simulated) : Prop where
  taken : s'.taken = Function.update s.taken fd (s.taken fd ++ data)
  streams : s'.streams = s.streams

theorem took_nil (s : Simulated) (fd : Int) : Took fd [] s s where
  taken := by rw [List.append_nil, Function.update_eq_self]
  streams := rfl

theorem Took.trans (h : Took fd xs s s1) (h' : Took fd ys s1 s') : Took fd (xs ++ ys) s s' where
  taken := by
    rw [h'.taken, h.taken, Function.update_self, Function.update_idem, List.append_assoc]
  streams := h'.streams.trans h.streams

theorem took_of_write {n : Nat} (h : host.write fd data s = (.ok n, s')) :
    Took fd (data.take n) s s' := by
  obtain ⟨stream, hs, -, -, rfl⟩ := write_eq_ok_iff.1 h
  refine ⟨?_, rfl⟩
  funext d
  rw [Function.update_apply, Simulated.taken, Ordered.find?_insert]
  by_cases hd : d = fd
  · rw [if_pos hd, if_pos hd]
    rfl
  · rw [if_neg hd, if_neg hd]
    rfl

theorem pos_of_write {n : Nat} (h : host.write fd data s = (.ok n, s'))
    (hs : s.streams.find? fd = some stream) (hl : stream.writeMost ≠ some 0) (hd : data ≠ []) :
    0 < n := by
  obtain ⟨stream', hs', -, rfl, -⟩ := write_eq_ok_iff.1 h
  cases hs.symm.trans hs'
  refine Nat.pos_of_ne_zero fun hz => ?_
  obtain hm | hn := capped_eq_zero_iff.1 hz
  · exact hl hm
  · exact hd (List.length_eq_zero_iff.1 hn)

theorem exists_write (hs : s.streams.find? fd = some stream) (hr : stream.writeRefusal = none)
    (data : List UInt8) : ∃ n s', host.write fd data s = (.ok n, s') :=
  ⟨_, _, write_eq_ok_iff.2 ⟨stream, hs, hr, rfl, rfl⟩⟩

end Simulated

end Yan85
