import Yan85.Proofs.Memory.Operations

/-! # Replaying recorded accesses

* `Contents`: the cells of the main memory and of the stack.
* `follow`, `replay`: goes through accesses in order. A reading has to find its byte, a writing has
  to find its cell, and puts its byte there.
* `written`: the contents with the writings alone.
* `Logged mem mem'`: what is recorded from `mem` to `mem'` leads from the cells of `mem` to those of
  `mem'`. Every operation of a memory keeps to this, and so do operations one after the other.
-/

namespace Yan85
set_option autoImplicit false

/-- The cells of both memories. -/
@[ext] structure Contents where
  main : Array UInt8
  stack : Array UInt8

/-- The accesses to consecutive cells from `start` on. -/
def consecutive (space : Space) (start : Nat) (xs : List UInt8) (d : Direction) : List Access :=
  xs.mapIdx fun k x => ⟨space, start + k, x, d⟩

theorem consecutive_cons (space : Space) (start : Nat) (x : UInt8) (xs : List UInt8)
    (d : Direction) :
    consecutive space start (x :: xs) d =
      ⟨space, start, x, d⟩ :: consecutive space (start + 1) xs d := by
  simp [consecutive, List.mapIdx_cons, Nat.add_comm, Nat.add_left_comm]

namespace Contents

def get (c : Contents) : Space → Array UInt8
  | .main => c.main
  | .stack => c.stack

def put (c : Contents) (s : Space) (cells : Array UInt8) : Contents :=
  match s with
  | .main => { c with main := cells }
  | .stack => { c with stack := cells }

@[simp] theorem get_put (c : Contents) (s : Space) (cells : Array UInt8) :
    (c.put s cells).get s = cells := by
  cases s <;> rfl

@[simp] theorem put_get (c : Contents) (s : Space) : c.put s (c.get s) = c := by
  cases s <;> rfl

@[simp] theorem put_put (c : Contents) (s : Space) (cells cells' : Array UInt8) :
    (c.put s cells).put s cells' = c.put s cells' := by
  cases s <;> rfl

/-- The contents with the byte of an access in its cell. -/
def fill (c : Contents) (a : Access) : Contents :=
  c.put a.space ((c.get a.space).setIfInBounds a.address a.data)

/-- The contents after an access, if it agrees with the contents before. -/
def follow (c : Contents) (a : Access) : Option Contents :=
  match a.direction with
  | .read => if (c.get a.space)[a.address]? = some a.data then some c else none
  | .write => if a.address < (c.get a.space).size then some (c.fill a) else none

/-- The contents after some accesses, if each agrees with the contents before it. -/
def replay (c : Contents) (log : List Access) : Option Contents := log.foldlM follow c

/-- The contents after the writings among some accesses. -/
def written (c : Contents) (log : List Access) : Contents :=
  (log.filter fun a => a.direction = .write).foldl fill c

theorem replay_append {c c' : Contents} {log : List Access} (h : c.replay log = some c')
    (log' : List Access) : c.replay (log ++ log') = c'.replay log' := by
  unfold replay at h ⊢
  rw [List.foldlM_append, h]
  rfl

theorem written_append (c : Contents) (log log' : List Access) :
    c.written (log ++ log') = (c.written log).written log' := by
  unfold written
  rw [List.filter_append, List.foldl_append]

theorem written_cons (c : Contents) (a : Access) (log : List Access) :
    c.written (a :: log) = (if a.direction = .write then c.fill a else c).written log := by
  unfold written
  by_cases h : a.direction = .write
  · simp [h]
  · simp [h]

/-- Where a replay succeeds, the writings alone lead to the same contents. -/
theorem written_of_replay {c c' : Contents} {log : List Access} (h : c.replay log = some c') :
    c.written log = c' := by
  induction log generalizing c with
  | nil => exact Option.some.inj h
  | cons a log ih =>
    have hs : (c.follow a).bind (fun c => c.replay log) = some c' := h
    obtain ⟨c1, h1, h2⟩ := Option.bind_eq_some_iff.1 hs
    rw [written_cons]
    unfold follow at h1
    cases hd : a.direction with
    | read =>
      simp only [hd, Option.ite_none_right_eq_some, Option.some.injEq] at h1
      obtain ⟨-, rfl⟩ := h1
      exact ih h2
    | write =>
      simp only [hd, Option.ite_none_right_eq_some, Option.some.injEq] at h1
      obtain ⟨-, rfl⟩ := h1
      exact ih h2

theorem replay_reads {c : Contents} {s : Space} {start : Nat} {xs : List UInt8}
    (h : ∀ k x, xs[k]? = some x → (c.get s)[start + k]? = some x) :
    c.replay (consecutive s start xs .read) = some c := by
  induction xs generalizing start with
  | nil => rfl
  | cons x xs ih =>
    have hx : (c.get s)[start]? = some x := h 0 x rfl
    have hr : c.replay (consecutive s (start + 1) xs .read) = some c := by
      apply ih
      intro k y hk
      rw [Nat.add_assoc, Nat.add_comm 1 k]
      exact h (k + 1) y hk
    have hf : c.follow ⟨s, start, x, .read⟩ = some c := if_pos hx
    rw [consecutive_cons, ← hr]
    change (c.follow ⟨s, start, x, .read⟩).bind (fun c => c.replay _) = _
    rw [hf]
    rfl

theorem replay_writes {c : Contents} {s : Space} {start : Nat} {xs : List UInt8}
    (h : start + xs.length ≤ (c.get s).size) :
    c.replay (consecutive s start xs .write) =
      some (c.put s (Memory.overwrite (c.get s) start xs)) := by
  induction xs generalizing c start with
  | nil => simp [consecutive, replay, Memory.overwrite]
  | cons x xs ih =>
    rw [List.length_cons] at h
    have hlt : start < (c.get s).size := by omega
    have hf : c.follow ⟨s, start, x, .write⟩ =
        some (c.put s ((c.get s).setIfInBounds start x)) := if_pos hlt
    rw [consecutive_cons]
    change (c.follow ⟨s, start, x, .write⟩).bind (fun c => c.replay _) = _
    rw [hf]
    change (c.put s ((c.get s).setIfInBounds start x)).replay _ = _
    -- The rest is written into the cells that the first byte has changed.
    rw [ih (by rw [get_put, Array.size_setIfInBounds]; omega), get_put, put_put]
    rfl

end Contents

/-! ## Operations of a memory -/

namespace Memory

variable {mem mem' mem'' : Memory}

/-- What is recorded from `mem` to `mem'` leads from the cells of `mem` to those of `mem'`. -/
structure Logged (mem mem' : Memory) : Prop where
  space : mem'.space = mem.space
  size : mem'.size = mem.size
  records : ∃ log, mem'.log = mem.log ++ log ∧
    ∀ c : Contents, c.get mem.space = mem.cells → c.replay log = some (c.put mem.space mem'.cells)

theorem Logged.refl (mem : Memory) : mem.Logged mem := by
  refine ⟨rfl, rfl, [], (List.append_nil _).symm, fun c hc => ?_⟩
  rw [← hc, Contents.put_get]
  rfl

theorem Logged.trans (h : mem.Logged mem') (h' : mem'.Logged mem'') : mem.Logged mem'' := by
  obtain ⟨log, hl, hr⟩ := h.records
  obtain ⟨log', hl', hr'⟩ := h'.records
  refine ⟨h'.space.trans h.space, h'.size.trans h.size, log ++ log', ?_, fun c hc => ?_⟩
  · rw [hl', hl, List.append_assoc]
  · have hc' : (c.put mem.space mem'.cells).get mem'.space = mem'.cells := by
      rw [h.space, Contents.get_put]
    rw [Contents.replay_append (hr c hc), hr' _ hc', h.space, Contents.put_put]

theorem logged_reads (mem : Memory) {i k : Nat} (h : i + k ≤ mem.size) :
    mem.Logged (mem.recordAll i (mem.slice i k) .read) := by
  refine ⟨rfl, rfl, consecutive mem.space i (mem.slice i k) .read, rfl, fun c hc => ?_⟩
  have hx : ∀ j x, (mem.slice i k)[j]? = some x → (c.get mem.space)[i + j]? = some x := by
    intro j x hj
    obtain ⟨hjk, rfl⟩ := List.getElem?_eq_some_iff.1 hj
    rw [length_slice] at hjk
    rw [hc, mem.getElem?_cells (by omega)]
    simp [slice]
  rw [Contents.replay_reads hx]
  change _ = some (c.put mem.space mem.cells)
  rw [← hc, Contents.put_get]

theorem logged_writes (mem : Memory) {i : Nat} {xs : List UInt8} (h : i + xs.length ≤ mem.size) :
    mem.Logged (mem.storeAll i xs) := by
  refine ⟨rfl, mem.size_storeAll i xs, consecutive mem.space i xs .write, rfl, fun c hc => ?_⟩
  have hs : i + xs.length ≤ (c.get mem.space).size := by
    rw [hc]
    exact h
  rw [Contents.replay_writes hs, hc]
  rfl

theorem logged_seen (mem : Memory) {i : Nat} (h : i < mem.size) : mem.Logged (mem.seen i) :=
  mem.logged_reads (k := 1) h

theorem logged_store (mem : Memory) {i : Nat} (h : i < mem.size) (x : UInt8) :
    mem.Logged (mem.store i x) := by
  have hx : i + [x].length ≤ mem.size := h
  exact mem.logged_writes hx

theorem logged_read {a : Int} {x : UInt8} (h : mem.read a = .ok (x, mem')) : mem.Logged mem' := by
  obtain ⟨i, -, hi, -, rfl⟩ := read_eq_ok_iff.1 h
  exact mem.logged_seen hi

theorem logged_write {a v : Int} (h : mem.write a v = .ok mem') : mem.Logged mem' := by
  obtain ⟨i, x, -, hi, -, rfl⟩ := write_eq_ok_iff.1 h
  exact mem.logged_store hi x

theorem logged_readRange {start n : Int} {xs : List UInt8}
    (h : mem.readRange start n = .ok (xs, mem')) : mem.Logged mem' := by
  obtain ⟨i, k, -, -, hle, rfl, rfl⟩ := readRange_eq_ok_iff.1 h
  exact mem.logged_reads hle

theorem logged_writeRange {start : Int} {xs : List UInt8}
    (h : mem.writeRange start xs = .ok mem') : mem.Logged mem' := by
  obtain ⟨i, -, hle, rfl⟩ := writeRange_eq_ok_iff.1 h
  exact mem.logged_writes hle

theorem logged_readString {start : Int} {xs : List UInt8}
    (h : mem.readString start = .ok (xs, mem')) : mem.Logged mem' := by
  obtain ⟨i, -, hi, rfl, rfl⟩ := readString_eq_ok_iff.1 h
  have hle := mem.stringLength_le i
  exact mem.logged_reads (by omega)

end Memory

end Yan85
