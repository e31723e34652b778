import Mathlib.Algebra.GroupWithZero.Nat
import Mathlib.Algebra.Ring.Int.Defs
import Yan85.Bindings.Standard
import Yan85.Proofs.Bindings.Lookups
import Yan85.Proofs.Host.Streams
import Yan85.Proofs.Machine.Calls
import Yan85.Proofs.Memory.Windows
import Yan85.Proofs.Results

/-! # Transfers in pieces

* `ask H s x y z`: the system call `s`, made by its code.
* `inPieces H s fd start counts`: one such call for each count, each of them going on where the
  results of those before it leave off.
* `Brought fd start data m m'`: the bytes `data` came from the descriptor into the cells from `start`
  on. `Sent fd start n m m'`: the bytes of `n` cells from `start` on went to the descriptor.
* `brought_of_ask`, `sent_of_ask`: one call. `brought_inPieces`, `sent_inPieces`: calls in pieces, by
  induction on the counts.
* `Completes size counts results`: each call asks for what those before it leave of `size`.
* `transfers_in_pieces`: short transfers lose nothing and move nothing twice.
-/

namespace Yan85.Machine
set_option autoImplicit false

section Pieces

variable {b : Bindings} {σ : Type} {H : Host σ} {m m' : Machine b σ}

/-- The system call `s`, made by its code. -/
def ask (H : Host σ) (s : Syscall) (x y z : Int) : Action (Machine b σ) Int :=
  dispatch H (byteValue (b.syscalls.get s)) x y z

theorem ask_apply (H : Host σ) (s : Syscall) (x y z : Int) (m : Machine b σ) :
    ask H s x y z m = perform H s x y z (m.tell (.called s x y z)) :=
  dispatch_of_code (Syscall.ofCode?_byteValue_iff.2 rfl) H m x y z

theorem ask_calls {s : Syscall} {x y z : Int} {r : Except Fault Int}
    (h : ask H s x y z m = (r, m')) : Calls H (m.tell (.called s x y z)) x y z s r m' := by
  have hc := perform_calls H (m.tell (.called s x y z)) x y z s
  rw [← ask_apply, h] at hc
  exact hc

/-- The system call `s` on a descriptor, made once for each count. Each call goes on where the
results of those before it leave off. -/
def inPieces (H : Host σ) (s : Syscall) (fd : Int) :
    Int → List Int → Action (Machine b σ) (List Int)
  | _, [] => pure []
  | start, n :: ns => do
    let r ← ask H s fd start n
    let rs ← inPieces H s fd (start + r) ns
    return r :: rs

theorem inPieces_nil_eq_ok_iff {s : Syscall} {fd start : Int} {rs : List Int} :
    inPieces H s fd start [] m = (.ok rs, m') ↔ rs = [] ∧ m' = m := by
  constructor
  · rintro ⟨⟩
    exact ⟨rfl, rfl⟩
  · rintro ⟨rfl, rfl⟩
    rfl

theorem inPieces_cons_eq_ok_iff {s : Syscall} {fd start n : Int} {ns rs : List Int} :
    inPieces H s fd start (n :: ns) m = (.ok rs, m') ↔
      ∃ r m1 rs', ask H s fd start n m = (.ok r, m1) ∧
        inPieces H s fd (start + r) ns m1 = (.ok rs', m') ∧ rs = r :: rs' := by
  rw [inPieces, Action.bind_eq_ok_iff]
  constructor
  · rintro ⟨r, m1, hr, h⟩
    obtain ⟨rs', m2, hrs, h⟩ := Action.bind_eq_ok_iff.1 h
    cases h
    exact ⟨r, m1, rs', hr, hrs, rfl⟩
  · rintro ⟨r, m1, rs', hr, hrs, rfl⟩
    exact ⟨r, m1, hr, Action.bind_eq_ok_iff.2 ⟨rs', m', hrs, rfl⟩⟩

/-- Each call asks for what the results of those before it leave of `size`. -/
def Completes (size : Int) (counts results : List Int) : Prop :=
  ∀ i n, counts[i]? = some n → n = size - (results.take i).sum

theorem completes_nil (size : Int) (results : List Int) : Completes size [] results := by
  intro i n h
  cases h

theorem completes_cons_iff {size n r : Int} {ns rs : List Int} :
    Completes size (n :: ns) (r :: rs) ↔ n = size ∧ Completes (size - r) ns rs := by
  constructor
  · intro h
    refine ⟨?_, fun i k hk => ?_⟩
    · have h0 := h 0 n rfl
      rw [List.take_zero, List.sum_nil] at h0
      omega
    · have hi := h (i + 1) k hk
      rw [List.take_succ_cons, List.sum_cons] at hi
      omega
  · rintro ⟨rfl, h⟩ i k hk
    cases i with
    | zero =>
      cases hk
      rw [List.take_zero, List.sum_nil]
      omega
    | succ i =>
      have hi := h i k hk
      rw [List.take_succ_cons, List.sum_cons]
      omega

end Pieces

variable {b : Bindings} {m m' m1 : Machine b Simulated}
variable {fd : Int} {start : Nat} {stream : Stream}

/-! ## Reading into memory -/

/-- The bytes `data` came from the descriptor into the cells from `start` on. No other cell, and no
other stream, changed. -/
structure Brought (fd : Int) (start : Nat) (data : List UInt8) (m m' : Machine b Simulated) :
    Prop where
  gave : m.host.Gave fd data m'.host
  cells : (fun k => m'.memory.cells[k]?) = overlaid start data fun k => m.memory.cells[k]?

theorem brought_nil (hs : m.host.streams.find? fd = some stream) (start : Nat) :
    Brought fd start [] m m where
  gave := Simulated.gave_nil hs
  cells := (funext fun k => overlaid_nil start _ k).symm

theorem Brought.trans {xs ys : List UInt8} (h : Brought fd start xs m m1)
    (h' : Brought fd (start + xs.length) ys m1 m') : Brought fd start (xs ++ ys) m m' where
  gave := h.gave.trans h'.gave
  cells := by rw [h'.cells, h.cells, overlaid_append]

theorem brought_of_ask {n r : Int}
    (h : ask Simulated.host .readMemory fd start n m = (.ok r, m')) :
    ∃ data, r = data.length ∧ Brought fd start data m m' := by
  cases ask_calls h with
  | read _ hr hw =>
    obtain ⟨i, hi, hle, rfl⟩ := Memory.writeRange_eq_ok_iff.1 hw
    obtain rfl : start = i := Int.ofNat.inj hi
    refine ⟨_, rfl, Simulated.gave_of_read hr, ?_⟩
    funext k
    exact Memory.getElem?_overwrite _ _ _ hle k

theorem rest_eq_nil_of_ask {n : Int}
    (h : ask Simulated.host .readMemory fd start n m = (.ok 0, m'))
    (hs : m.host.streams.find? fd = some stream) (hl : stream.readMost ≠ some 0) (hn : 0 < n) :
    stream.rest = [] := by
  generalize hz : (0 : Int) = r at h
  cases ask_calls h with
  | read _ hr _ =>
    obtain rfl := List.length_eq_zero_iff.1 (Int.ofNat.inj hz.symm)
    exact Simulated.rest_eq_nil_of_read hr hs hl hn

theorem brought_inPieces {ns rs : List Int} (hs : m.host.streams.find? fd = some stream)
    (h : inPieces Simulated.host .readMemory fd start ns m = (.ok rs, m')) :
    ∃ data, rs.sum = data.length ∧ Brought fd start data m m' := by
  induction ns generalizing m start stream rs with
  | nil =>
    obtain ⟨rfl, rfl⟩ := inPieces_nil_eq_ok_iff.1 h
    exact ⟨[], rfl, brought_nil hs start⟩
  | cons n ns ih =>
    obtain ⟨r, m1, rs, hr, hrs, rfl⟩ := inPieces_cons_eq_ok_iff.1 h
    obtain ⟨xs, rfl, hx⟩ := brought_of_ask hr
    obtain ⟨rest, -, hs1⟩ := hx.gave.find? hs
    rw [← Int.natCast_add] at hrs
    obtain ⟨ys, hsum, hy⟩ := ih hs1 hrs
    refine ⟨xs ++ ys, ?_, hx.trans hy⟩
    rw [List.sum_cons, hsum, List.length_append, Int.natCast_add]

/-- A call that may bring a byte, and brings none, comes after calls that have brought all. -/
theorem sum_take_of_getElem?_zero {ns rs : List Int} (hs : m.host.streams.find? fd = some stream)
    (hl : stream.readMost ≠ some 0)
    (h : inPieces Simulated.host .readMemory fd start ns m = (.ok rs, m')) {i : Nat} {n : Int}
    (hi : ns[i]? = some n) (hn : 0 < n) (hz : rs[i]? = some 0) :
    (rs.take i).sum = stream.rest.length := by
  induction ns generalizing m start stream rs i with
  | nil => cases hi
  | cons k ns ih =>
    obtain ⟨r, m1, rs, hr, hrs, rfl⟩ := inPieces_cons_eq_ok_iff.1 h
    cases i with
    | zero =>
      cases hi
      cases hz
      rw [rest_eq_nil_of_ask hr hs hl hn]
      rfl
    | succ i =>
      obtain ⟨xs, rfl, hx⟩ := brought_of_ask hr
      obtain ⟨rest, hrest, hs1⟩ := hx.gave.find? hs
      rw [← Int.natCast_add] at hrs
      have hsum := ih hs1 hl hrs hi hz
      rw [List.take_succ_cons, List.sum_cons, hsum, hrest, List.length_append, Int.natCast_add]

/-! ## Writing out of memory -/

/-- The bytes of `n` cells from `start` on went to the descriptor, behind those that it had taken
before. No cell and no stream changed. -/
structure Sent (fd : Int) (start n : Nat) (m m' : Machine b Simulated) : Prop where
  within : 0 < n → start + n ≤ m.memory.size
  took : m.host.Took fd (m.memory.slice start n) m'.host
  cells : m'.memory.cells = m.memory.cells

theorem sent_zero (m : Machine b Simulated) (fd : Int) (start : Nat) : Sent fd start 0 m m where
  within := fun h => absurd h (Nat.lt_irrefl 0)
  took := m.host.took_nil fd
  cells := rfl

theorem Sent.size_eq {n : Nat} (h : Sent fd start n m m') : m'.memory.size = m.memory.size :=
  congrArg Array.size h.cells

theorem Sent.trans {n k : Nat} (h : Sent fd start n m m1) (h' : Sent fd (start + n) k m1 m') :
    Sent fd start (n + k) m m' where
  within := by
    intro hpos
    have hn := h.within
    have hk := h'.within
    rw [h.size_eq] at hk
    omega
  took := by
    have hc : m1.memory.slice (start + n) k = m.memory.slice (start + n) k := by
      unfold Memory.slice Memory.cell
      rw [h.cells]
    have ht := h'.took
    rw [hc] at ht
    rw [Memory.slice_add]
    exact h.took.trans ht
  cells := h'.cells.trans h.cells

theorem Sent.find? {n : Nat} (h : Sent fd start n m m') (d : Int) :
    m'.host.streams.find? d = m.host.streams.find? d := by
  rw [h.took.streams]

theorem sent_of_ask {n r : Int} (h : ask Simulated.host .write fd start n m = (.ok r, m')) :
    ∃ k : Nat, r = k ∧ k ≤ n ∧ Sent fd start k m m' := by
  cases ask_calls h with
  | @written data mem k s hr hw =>
    obtain ⟨i, size, hi, rfl, hle, rfl, rfl⟩ := Memory.readRange_eq_ok_iff.1 hr
    obtain rfl : start = i := Int.ofNat.inj hi
    have hin : start + size ≤ m.memory.size := hle
    have hk := Simulated.honest.write_count _ _ _ _ _ hw
    rw [Memory.length_slice] at hk
    have ht := Simulated.took_of_write hw
    rw [Memory.take_slice _ _ hk] at ht
    exact ⟨k, rfl, by omega, fun _ => by omega, ht, rfl⟩

theorem pos_of_ask {n r : Int} (h : ask Simulated.host .write fd start n m = (.ok r, m'))
    (hs : m.host.streams.find? fd = some stream) (hl : stream.writeMost ≠ some 0) (hn : 0 < n) :
    0 < r := by
  cases ask_calls h with
  | @written data mem k s hr hw =>
    obtain ⟨i, size, hi, rfl, -, rfl, rfl⟩ := Memory.readRange_eq_ok_iff.1 hr
    have hne : (m.tell (.called .write fd start size)).memory.slice i size ≠ [] := by
      refine List.ne_nil_of_length_pos ?_
      rw [Memory.length_slice]
      omega
    have hk := Simulated.pos_of_write hw hs hl hne
    omega

theorem exists_ask_write {n : Nat} (hs : m.host.streams.find? fd = some stream)
    (hr : stream.writeRefusal = none) (hle : start + n ≤ m.memory.size) :
    ∃ r m', ask Simulated.host .write fd start n m = (.ok r, m') := by
  cases h : ask Simulated.host .write fd start n m with
  | mk r m' =>
    cases ask_calls h with
    | writeOutside hread =>
      have hok := Memory.readRange_eq_ok_iff.2 ⟨start, n, rfl, rfl, hle, rfl, rfl⟩
      cases hok.symm.trans hread
    | @writeRefused data mem e s hread hw =>
      obtain ⟨k, s', hw'⟩ := Simulated.exists_write hs hr data
      cases hw.symm.trans hw'
    | written => exact ⟨_, _, rfl⟩

theorem sent_inPieces {ns rs : List Int}
    (h : inPieces Simulated.host .write fd start ns m = (.ok rs, m')) :
    ∃ k : Nat, rs.sum = k ∧ Sent fd start k m m' := by
  induction ns generalizing m start rs with
  | nil =>
    obtain ⟨rfl, rfl⟩ := inPieces_nil_eq_ok_iff.1 h
    exact ⟨0, rfl, sent_zero m' fd start⟩
  | cons n ns ih =>
    obtain ⟨r, m1, rs, hr, hrs, rfl⟩ := inPieces_cons_eq_ok_iff.1 h
    obtain ⟨k, rfl, -, hk⟩ := sent_of_ask hr
    rw [← Int.natCast_add] at hrs
    obtain ⟨l, hsum, hl⟩ := ih hrs
    refine ⟨k + l, ?_, hk.trans hl⟩
    rw [List.sum_cons, hsum, Int.natCast_add]

theorem sum_le_of_completes {size : Int} {ns rs : List Int} (hsize : 0 ≤ size)
    (hc : Completes size ns rs)
    (h : inPieces Simulated.host .write fd start ns m = (.ok rs, m')) : rs.sum ≤ size := by
  induction ns generalizing m start size rs with
  | nil =>
    obtain ⟨rfl, rfl⟩ := inPieces_nil_eq_ok_iff.1 h
    exact hsize
  | cons n ns ih =>
    obtain ⟨r, m1, rs, hr, hrs, rfl⟩ := inPieces_cons_eq_ok_iff.1 h
    obtain ⟨rfl, hc⟩ := completes_cons_iff.1 hc
    obtain ⟨k, rfl, hk, -⟩ := sent_of_ask hr
    rw [← Int.natCast_add] at hrs
    have hle := ih (by omega) hc hrs
    rw [List.sum_cons]
    omega

/-- Where each call moves a byte as long as one is left, as many calls as there are bytes suffice. -/
theorem sum_eq_of_completes {size : Nat} {ns rs : List Int}
    (hs : m.host.streams.find? fd = some stream) (hl : stream.writeMost ≠ some 0)
    (hc : Completes size ns rs) (hlen : size ≤ ns.length)
    (h : inPieces Simulated.host .write fd start ns m = (.ok rs, m')) : rs.sum = size := by
  induction ns generalizing m start size rs with
  | nil =>
    obtain ⟨rfl, rfl⟩ := inPieces_nil_eq_ok_iff.1 h
    obtain rfl := Nat.eq_zero_of_le_zero hlen
    rfl
  | cons n ns ih =>
    obtain ⟨r, m1, rs, hr, hrs, rfl⟩ := inPieces_cons_eq_ok_iff.1 h
    obtain ⟨rfl, hc'⟩ := completes_cons_iff.1 hc
    obtain ⟨k, rfl, hk, hsent⟩ := sent_of_ask hr
    have hs1 := (hsent.find? fd).trans hs
    have hpos : 0 < size → 0 < k := by
      intro h0
      have hk0 := pos_of_ask hr hs hl (by omega)
      omega
    rw [← Int.natCast_add] at hrs
    rw [List.length_cons] at hlen
    have hsub : (size : Int) - k = (size - k : Nat) := by omega
    rw [hsub] at hc'
    have hsum := ih hs1 hc' (by omega) hrs
    rw [List.sum_cons, hsum]
    omega

theorem exists_inPieces_write (hs : m.host.streams.find? fd = some stream)
    (hr : stream.writeRefusal = none) {size : Nat} (hle : start + size ≤ m.memory.size)
    (calls : Nat) :
    ∃ ns rs m', ns.length = calls ∧ Completes size ns rs ∧
      inPieces Simulated.host .write fd start ns m = (.ok rs, m') := by
  induction calls generalizing m start size with
  | zero => exact ⟨[], [], m, rfl, completes_nil _ _, rfl⟩
  | succ calls ih =>
    obtain ⟨r, m1, hask⟩ := exists_ask_write hs hr hle
    obtain ⟨k, rfl, hk, hsent⟩ := sent_of_ask hask
    have hs1 := (hsent.find? fd).trans hs
    have hsize := hsent.size_eq
    have hle1 : start + k + (size - k) ≤ m1.memory.size := by omega
    obtain ⟨ns, rs, m', hlen, hc, h⟩ := ih hs1 hle1
    have hsub : ((size - k : Nat) : Int) = (size : Int) - k := by omega
    rw [hsub] at hc
    rw [Int.natCast_add] at h
    refine ⟨size :: ns, k :: rs, m', congrArg Nat.succ hlen, completes_cons_iff.2 ⟨rfl, hc⟩, ?_⟩
    exact inPieces_cons_eq_ok_iff.2 ⟨k, m1, rs, hask, h, rfl⟩

/-- **Short transfers lose nothing and move nothing twice.** Let calls be made one after the other,
each going on where the results of those before it leave off, and let all of them succeed. After
reads into memory, the next bytes of the stream stand from `start` on, in order, as many as the
results say in all, and nothing else has changed; a call for at least one byte, of a stream that may
give one, is answered with none only where the calls before it have brought everything. After writes,
the descriptor has taken the bytes that stand from `start` on, in order, as many as the results say
in all. If each of them asks for what is left of `size`, these are at most `size` bytes, and all of
them after `size` calls, provided that each call may move one. Where the cells are there and the
stream refuses nothing, such calls do succeed. -/
theorem transfers_in_pieces (m : Machine b Simulated) (fd : Int) (start : Nat) {stream : Stream}
    (hs : m.host.streams.find? fd = some stream) :
    (∀ counts results m',
      inPieces Simulated.host .readMemory fd start counts m = (.ok results, m') →
      (∃ data, results.sum = data.length ∧ Brought fd start data m m') ∧
      (stream.readMost ≠ some 0 → ∀ i n, counts[i]? = some n → 0 < n → results[i]? = some 0 →
        (results.take i).sum = stream.rest.length)) ∧
    (∀ (size : Nat) counts results m', Completes size counts results →
      inPieces Simulated.host .write fd start counts m = (.ok results, m') →
      ∃ done : Nat, results.sum = done ∧ done ≤ size ∧ Sent fd start done m m' ∧
        (stream.writeMost ≠ some 0 → size ≤ counts.length → done = size)) ∧
    (∀ size, start + size ≤ m.memory.size → stream.writeRefusal = none →
      stream.writeMost ≠ some 0 →
      ∃ counts results m', counts.length = size ∧ Completes size counts results ∧
        inPieces Simulated.host .write fd start counts m = (.ok results, m') ∧
        results.sum = size) := by
  refine ⟨fun counts results m' h => ?_, fun size counts results m' hc h => ?_,
    fun size hle hr hl => ?_⟩
  · exact ⟨brought_inPieces hs h, fun hl i n hi hn hz => sum_take_of_getElem?_zero hs hl h hi hn hz⟩
  · obtain ⟨done, hsum, hsent⟩ := sent_inPieces h
    have hle := sum_le_of_completes (Int.natCast_nonneg size) hc h
    refine ⟨done, hsum, by omega, hsent, fun hl hlen => ?_⟩
    have hall := sum_eq_of_completes hs hl hc hlen h
    omega
  · obtain ⟨counts, results, m', hlen, hc, h⟩ := exists_inPieces_write hs hr hle size
    exact ⟨counts, results, m', hlen, hc, h,
      sum_eq_of_completes hs hl hc (Nat.le_of_eq hlen.symm) h⟩

/-- Sixteen cells, and a stream of three bytes that moves at most two at a time. -/
def throttled : Machine .standard Simulated :=
  fresh .standard [] (.ofSize .main 16) false
    { Simulated.empty with
      streams := Simulated.empty.streams.insert 5 ⟨[7, 8, 9], some 2, some 2, none, none⟩ }

/-- The three bytes come in two calls, and a third call meets the end. Three cells go in two
calls. -/
theorem throttled_transfers :
    (∃ m', inPieces Simulated.host .readMemory 5 4 [4, 4, 4] throttled = (.ok [2, 1, 0], m') ∧
      ∃ data, data.length = 3 ∧ Brought 5 4 data throttled m') ∧
    ∃ m', inPieces Simulated.host .write 5 0 [3, 1, 0] throttled = (.ok [2, 1, 0], m') ∧
      Sent 5 0 3 throttled m' := by
  obtain ⟨hread, -, -⟩ := transfers_in_pieces throttled 5 4 rfl
  obtain ⟨-, hwrite, -⟩ := transfers_in_pieces throttled 5 0 rfl
  obtain ⟨m1, hin⟩ : ∃ m', inPieces Simulated.host .readMemory 5 4 [4, 4, 4] throttled =
      (.ok [2, 1, 0], m') := exists_ok_of_toOption (by decide +kernel)
  obtain ⟨m2, hout⟩ : ∃ m', inPieces Simulated.host .write 5 0 [3, 1, 0] throttled =
      (.ok [2, 1, 0], m') := exists_ok_of_toOption (by decide +kernel)
  have hc : Completes (3 : Nat) [3, 1, 0] [2, 1, 0] := by
    simp only [completes_cons_iff]
    exact ⟨rfl, rfl, rfl, completes_nil _ _⟩
  obtain ⟨⟨data, hsum, hb⟩, -⟩ := hread _ _ _ hin
  obtain ⟨done, hdone, -, hsent, hall⟩ := hwrite 3 _ _ _ hc hout
  obtain rfl := hall (by decide) (by decide)
  exact ⟨⟨m1, hin, data, (Int.ofNat.inj hsum).symm, hb⟩, m2, hout, hsent⟩

end Yan85.Machine
