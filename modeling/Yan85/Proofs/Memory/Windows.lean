import Mathlib.Logic.Function.Basic
import Yan85.Proofs.Memory.Operations

/-! # Windows of a memory

* `overlaid start new old`: what is found at each index once `new` stands from `start` on.
* `overlaid_append`: what stands behind `xs` goes on where `xs` ends.
* `getElem?_overwrite`: a range that is written replaces its own cells and no others.
* `slice_eq_take`, `string_eq_takeWhile`: what a range and a string hold.
-/

namespace Yan85
set_option autoImplicit false

/-- What is found at `k` once `new` has been put over `old` from `start` on. -/
def overlaid {α : Type} (start : Nat) (new : List α) (old : Nat → Option α) (k : Nat) : Option α :=
  if start ≤ k ∧ k < start + new.length then new[k - start]? else old k

theorem overlaid_nil {α : Type} (start : Nat) (old : Nat → Option α) (k : Nat) :
    overlaid start [] old k = old k := by
  unfold overlaid
  rw [List.length_nil, if_neg (by omega)]

theorem overlaid_cons {α : Type} (start : Nat) (x : α) (xs : List α) (old : Nat → Option α)
    (k : Nat) :
    overlaid start (x :: xs) old k =
      overlaid (start + 1) xs (Function.update old start (some x)) k := by
  unfold overlaid
  rw [List.length_cons]
  by_cases hk : k = start
  · subst hk
    rw [if_pos (by omega), if_neg (by omega), Nat.sub_self, Function.update_self]
    rfl
  · by_cases hin : start + 1 ≤ k ∧ k < start + 1 + xs.length
    · rw [if_pos (by omega), if_pos hin]
      have e : k - start = k - (start + 1) + 1 := by omega
      rw [e, List.getElem?_cons_succ]
    · rw [if_neg (by omega), if_neg hin, Function.update_of_ne hk]

/-- What is put over the cells behind `xs` goes on where `xs` ends. -/
theorem overlaid_append {α : Type} (start : Nat) (xs ys : List α) (old : Nat → Option α) :
    overlaid (start + xs.length) ys (overlaid start xs old) = overlaid start (xs ++ ys) old := by
  funext k
  unfold overlaid
  rw [List.length_append]
  by_cases hy : start + xs.length ≤ k ∧ k < start + xs.length + ys.length
  · have e : k - (start + xs.length) = k - start - xs.length := by omega
    rw [if_pos hy, if_pos (by omega), List.getElem?_append_right (by omega), e]
  · rw [if_neg hy]
    by_cases hx : start ≤ k ∧ k < start + xs.length
    · rw [if_pos hx, if_pos (by omega), List.getElem?_append_left (by omega)]
    · rw [if_neg hx, if_neg (by omega)]

namespace Memory

theorem getElem?_overwrite (cells : Array UInt8) (start : Nat) (xs : List UInt8)
    (h : start + xs.length ≤ cells.size) (k : Nat) :
    (overwrite cells start xs)[k]? = overlaid start xs (fun j => cells[j]?) k := by
  induction xs generalizing cells start with
  | nil => rw [overwrite, overlaid_nil]
  | cons x xs ih =>
    rw [List.length_cons] at h
    have hu : (fun j => (cells.setIfInBounds start x)[j]?) =
        Function.update (fun j => cells[j]?) start (some x) := by
      funext j
      rw [Array.getElem?_setIfInBounds, Function.update_apply]
      by_cases hj : start = j
      · rw [if_pos hj, if_pos hj.symm, if_pos (by omega)]
      · rw [if_neg hj, if_neg (Ne.symm hj)]
    rw [overwrite, ih _ _ (by rw [Array.size_setIfInBounds]; omega), overlaid_cons, hu]

variable {mem : Memory}

theorem slice_add (mem : Memory) (start n k : Nat) :
    mem.slice start (n + k) = mem.slice start n ++ mem.slice (start + n) k := by
  unfold slice
  rw [List.range_add, List.map_append, List.map_map]
  congr 1
  apply List.map_congr_left
  intro i _
  rw [Function.comp_apply, Nat.add_assoc]

theorem take_slice (mem : Memory) (start : Nat) {k n : Nat} (h : k ≤ n) :
    (mem.slice start n).take k = mem.slice start k := by
  unfold slice
  rw [← List.map_take, List.take_range, Nat.min_eq_left h]

theorem slice_eq_take {i n : Nat} (h : i + n ≤ mem.size) :
    mem.slice i n = (mem.cells.toList.drop i).take n := by
  apply List.ext_getElem?
  intro k
  unfold slice
  rw [List.getElem?_map, List.getElem?_take, List.getElem?_drop]
  by_cases hk : k < n
  · have hc : mem.cells.toList[i + k]? = some (mem.cell (i + k)) := by
      rw [Array.getElem?_toList]
      exact mem.getElem?_cells (by omega)
    rw [if_pos hk, List.getElem?_range hk, hc]
    rfl
  · rw [if_neg hk, List.getElem?_eq_none (by rw [List.length_range]; omega)]
    rfl

theorem string_eq_takeWhile {i : Nat} (h : i ≤ mem.size) :
    mem.slice i (mem.stringLength i) =
      (mem.cells.toList.drop i).takeWhile fun x => x != 0 := by
  have hle := mem.stringLength_le i
  have hw : mem.slice i (mem.size - i) = mem.cells.toList.drop i := by
    rw [slice_eq_take (by omega)]
    apply List.take_of_length_le
    rw [List.length_drop, Array.length_toList]
    exact Nat.le_refl _
  have hp := List.takeWhile_prefix (l := mem.cells.toList.drop i) fun x => x != 0
  rw [slice_eq_take (by omega), stringLength, hw]
  exact (List.prefix_iff_eq_take.1 hp).symm

end Memory

end Yan85
