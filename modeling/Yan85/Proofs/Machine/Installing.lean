import Yan85.Proofs.Machine.Pieces
import Yan85.Proofs.Machine.Rewriting

/-! # Programs that are installed in pieces

* `Installed fd start data code m m'`: the bytes `data` came from the descriptor, and the instructions
  `code` that they stand for went into the places from `start` on.
* `installed_of_ask`, `exists_ask_iff`: the call that reads instructions from a stream without
  refusals and limits; what it does where it succeeds, and where that is.
* `installed_in_full`, `exists_ask_in_full`: all instructions that were asked for come.
* `ask_behind_iff`: what is left of a call after a first one that brought all that it asked for.
* `installed_inPieces`, `exists_inPieces`: calls in pieces, by induction on the counts.
* `readCode_splits`: a program may be installed in pieces.
-/

namespace Yan85.Machine
set_option autoImplicit false

variable {b : Bindings} {m m' m1 : Machine b Simulated}
variable {fd : Int} {start count : Nat} {stream : Stream} {xs ys data rest : List UInt8}
variable {code code' : List Instruction}

/-! ## One call -/

/-- The bytes `data` came from the descriptor, and the instructions that they stand for went into the
places from `start` on. -/
structure Installed (fd : Int) (start : Nat) (data : List UInt8) (code : List Instruction)
    (m m' : Machine b Simulated) : Prop where
  gave : m.host.Gave fd data m'.host
  decoded : decodeProgram b data = .ok code
  program : m'.program = splice m.program start code

theorem installed_nil (hs : m.host.streams.find? fd = some stream) (start : Nat) :
    Installed fd start [] [] m m where
  gave := Simulated.gave_nil hs
  decoded := rfl
  program := (splice_nil ..).symm

theorem Installed.length_data (h : Installed fd start data code m m') :
    data.length = code.length * instructionSize :=
  length_eq_of_decodeProgram h.decoded

theorem Installed.length_mod (h : Installed fd start data code m m') :
    data.length % instructionSize = 0 := by
  rw [h.length_data, Nat.mul_mod_left]

theorem Installed.length_program (h : Installed fd start data code m m')
    (hstart : start ≤ m.program.length) :
    m'.program.length = max m.program.length (start + code.length) := by
  rw [h.program, length_splice hstart]

theorem Installed.trans (hstart : start ≤ m.program.length) (h : Installed fd start xs code m m1)
    (h' : Installed fd (start + code.length) ys code' m1 m') :
    Installed fd start (xs ++ ys) (code ++ code') m m' where
  gave := h.gave.trans h'.gave
  decoded := (decodeProgram_append_eq_ok_iff h.length_mod).2
    ⟨code, code', h.decoded, h'.decoded, rfl⟩
  program := by rw [h'.program, h.program, splice_append hstart]

/-- The bytes that came determine the instructions, the program and what is left of the streams. -/
theorem Installed.unique (h : Installed fd start data code m m')
    (h1 : Installed fd start data code' m m1) :
    code = code' ∧ m'.program = m1.program ∧ m'.host.streams.find? = m1.host.streams.find? := by
  have hd := h.decoded
  rw [h1.decoded] at hd
  cases hd
  exact ⟨rfl, h.program.trans h1.program.symm, h.gave.unique h1.gave⟩

theorem installed_of_ask {r : Int} (hs : m.host.streams.find? fd = some stream)
    (hu : stream.Unhindered)
    (h : ask Simulated.host .readCode fd start count m = (.ok r, m')) :
    start ≤ m.program.length ∧ start + count ≤ addressSpaceSize ∧
      ∃ code, r = code.length ∧
        Installed fd start (stream.rest.take (count * instructionSize)) code m m' := by
  cases ask_calls h with
  | codeRead hp hr hd hl =>
    obtain ⟨hstart, hend⟩ := not_or.1 (mt misplaced_natCast_iff.2 hp)
    obtain ⟨s', hr'⟩ := Simulated.exists_read hs hu (count * instructionSize)
    cases hr.symm.trans hr'
    exact ⟨Nat.le_of_not_lt hstart, Nat.le_of_not_lt hend, _, rfl, Simulated.gave_of_read hr, hd,
      spliceFrom_natCast ..⟩

theorem exists_ask (hs : m.host.streams.find? fd = some stream) (hu : stream.Unhindered)
    (hstart : start ≤ m.program.length) (hend : start + count ≤ addressSpaceSize)
    (hd : decodeProgram b (stream.rest.take (count * instructionSize)) = .ok code) :
    ∃ m', ask Simulated.host .readCode fd start count m = (.ok code.length, m') := by
  have hp : ¬ m.Misplaced start count := by
    rw [misplaced_natCast_iff]
    omega
  have hlen := length_eq_of_decodeProgram hd
  rw [List.length_take] at hlen
  have hl : ¬ m.Misplaced start code.length := by
    rw [misplaced_natCast_iff]
    unfold instructionSize at hlen
    omega
  obtain ⟨s', hr⟩ := Simulated.exists_read hs hu (count * instructionSize)
  cases h : ask Simulated.host .readCode fd start count m with
  | mk r m' =>
    cases ask_calls h with
    | codeMisplaced hp' => exact absurd hp' hp
    | codeRefused _ hr' => cases hr.symm.trans hr'
    | codeUndecoded _ hr' hd' =>
      cases hr.symm.trans hr'
      cases hd.symm.trans hd'
    | codeTooLong _ hr' hd' hl' =>
      cases hr.symm.trans hr'
      cases hd.symm.trans hd'
      exact absurd hl' hl
    | codeRead _ hr' hd' _ =>
      cases hr.symm.trans hr'
      cases hd.symm.trans hd'
      exact ⟨_, rfl⟩

theorem exists_ask_iff (hs : m.host.streams.find? fd = some stream) (hu : stream.Unhindered) :
    (∃ r m', ask Simulated.host .readCode fd start count m = (.ok r, m')) ↔
      start ≤ m.program.length ∧ start + count ≤ addressSpaceSize ∧
        ∃ code, decodeProgram b (stream.rest.take (count * instructionSize)) = .ok code := by
  constructor
  · rintro ⟨r, m', h⟩
    obtain ⟨hstart, hend, code, -, hi⟩ := installed_of_ask hs hu h
    exact ⟨hstart, hend, code, hi.decoded⟩
  · rintro ⟨hstart, hend, code, hd⟩
    obtain ⟨m', h⟩ := exists_ask hs hu hstart hend hd
    exact ⟨_, m', h⟩

/-- A call that brings as many instructions as it asks for. What is left of the stream begins behind
their bytes. -/
theorem installed_in_full (hs : m.host.streams.find? fd = some stream) (hu : stream.Unhindered)
    (h : ask Simulated.host .readCode fd start count m = (.ok count, m')) :
    ∃ data rest code, stream.rest = data ++ rest ∧ code.length = count ∧
      Installed fd start data code m m' ∧
      m'.host.streams.find? fd = some { stream with rest := rest } := by
  obtain ⟨-, -, code, hr, hi⟩ := installed_of_ask hs hu h
  obtain ⟨rest, hrest, hs'⟩ := hi.gave.find? hs
  exact ⟨_, rest, code, hrest, (Int.ofNat.inj hr).symm, hi, hs'⟩

/-- Whole instructions that decode, for which there is room, are brought by the call for as many. -/
theorem exists_ask_in_full (hs : m.host.streams.find? fd = some stream) (hu : stream.Unhindered)
    (hstart : start ≤ m.program.length) (hend : start + count ≤ addressSpaceSize)
    (hrest : stream.rest = data ++ rest) (hlen : data.length = count * instructionSize)
    (hd : decodeProgram b data = .ok code) :
    ∃ m', ask Simulated.host .readCode fd start count m = (.ok count, m') ∧
      Installed fd start data code m m' ∧
      m'.host.streams.find? fd = some { stream with rest := rest } := by
  have htake : stream.rest.take (count * instructionSize) = data := by
    rw [hrest, ← hlen, List.take_left]
  have hcount : code.length = count := by
    rw [length_of_decodeProgram hd, hlen, Nat.mul_div_cancel _ (by decide)]
  rw [← htake] at hd
  obtain ⟨m', h⟩ := exists_ask hs hu hstart hend hd
  obtain ⟨-, -, code', -, hi⟩ := installed_of_ask hs hu h
  cases hd.symm.trans hi.decoded
  rw [htake] at hi
  rw [hcount] at h
  obtain ⟨rest', hrest', hs'⟩ := hi.gave.find? hs
  obtain rfl : rest = rest' := List.append_cancel_left (hrest.symm.trans hrest')
  exact ⟨m', h, hi, hs'⟩

theorem take_behind {p q : Nat} (hrest : stream.rest = data ++ rest)
    (hlen : data.length = p * instructionSize) :
    stream.rest.take ((p + q) * instructionSize) = data ++ rest.take (q * instructionSize) := by
  rw [hrest, Nat.add_mul, ← hlen, List.take_length_add_append]

/-- Behind a call that brought all that it asked for, a second one succeeds just where one call for
both would have succeeded in the place of the first. -/
theorem ask_behind_iff {p q : Nat} (hs : m.host.streams.find? fd = some stream)
    (hu : stream.Unhindered) (h : ask Simulated.host .readCode fd start p m = (.ok p, m1)) :
    (∃ r m', ask Simulated.host .readCode fd (start + p : Nat) q m1 = (.ok r, m')) ↔
      ∃ t m', ask Simulated.host .readCode fd start (p + q : Nat) m = (.ok t, m') := by
  obtain ⟨hstart, -, -⟩ := installed_of_ask hs hu h
  obtain ⟨data, rest, code, hrest, rfl, hi, hs1⟩ := installed_in_full hs hu h
  have hlen := hi.length_program hstart
  rw [exists_ask_iff hs1 (hu.behind rest), exists_ask_iff hs hu, take_behind hrest hi.length_data]
  constructor
  · rintro ⟨-, hend, code', hd⟩
    exact ⟨hstart, by omega, code ++ code',
      (decodeProgram_append_eq_ok_iff hi.length_mod).2 ⟨code, code', hi.decoded, hd, rfl⟩⟩
  · rintro ⟨-, hend, all, hd⟩
    obtain ⟨_, code', -, hd', -⟩ := (decodeProgram_append_eq_ok_iff hi.length_mod).1 hd
    exact ⟨by omega, by omega, code', hd'⟩

/-- The two calls together bring what the one brings. -/
theorem ask_behind_eq {p q : Nat} {r t : Int} {m2 : Machine b Simulated}
    (hs : m.host.streams.find? fd = some stream) (hu : stream.Unhindered)
    (h : ask Simulated.host .readCode fd start p m = (.ok p, m1))
    (h2 : ask Simulated.host .readCode fd (start + p : Nat) q m1 = (.ok r, m2))
    (h' : ask Simulated.host .readCode fd start (p + q : Nat) m = (.ok t, m')) :
    t = p + r ∧ m2.program = m'.program ∧ m2.host.streams.find? = m'.host.streams.find? := by
  obtain ⟨hstart, -, all, rfl, hall⟩ := installed_of_ask hs hu h'
  obtain ⟨data, rest, code, hrest, rfl, hi, hs1⟩ := installed_in_full hs hu h
  obtain ⟨-, -, code', rfl, hi'⟩ := installed_of_ask hs1 (hu.behind rest) h2
  rw [take_behind hrest hi.length_data] at hall
  obtain ⟨rfl, hprogram, hstreams⟩ := (hi.trans hstart hi').unique hall
  refine ⟨?_, hprogram, hstreams⟩
  rw [List.length_append, Int.natCast_add]

/-! ## Calls in pieces -/

theorem installed_inPieces {counts : List Nat} (hs : m.host.streams.find? fd = some stream)
    (hu : stream.Unhindered) (hstart : start ≤ m.program.length)
    (hend : start ≤ addressSpaceSize)
    (h : inPieces Simulated.host .readCode fd start (counts.map Nat.cast) m =
      (.ok (counts.map Nat.cast), m')) :
    start + counts.sum ≤ addressSpaceSize ∧
      ∃ data code, code.length = counts.sum ∧ Installed fd start data code m m' := by
  induction counts generalizing m start stream with
  | nil =>
    obtain ⟨-, rfl⟩ := inPieces_nil_eq_ok_iff.1 h
    exact ⟨hend, [], [], rfl, installed_nil hs start⟩
  | cons n ns ih =>
    obtain ⟨r, m1, rs, hr, hrs, he⟩ := inPieces_cons_eq_ok_iff.1 h
    cases he
    obtain ⟨-, hend', -⟩ := installed_of_ask hs hu hr
    obtain ⟨data, rest, code, -, rfl, hi, hs1⟩ := installed_in_full hs hu hr
    have hlen := hi.length_program hstart
    rw [← Int.natCast_add] at hrs
    obtain ⟨hend1, ys, code', hcode', hi'⟩ := ih hs1 (hu.behind rest) (by omega) hend' hrs
    rw [List.sum_cons]
    refine ⟨by omega, data ++ ys, code ++ code', ?_, hi.trans hstart hi'⟩
    rw [List.length_append, hcode']

theorem exists_inPieces {counts : List Nat} (hs : m.host.streams.find? fd = some stream)
    (hu : stream.Unhindered) (hstart : start ≤ m.program.length)
    (hend : start + counts.sum ≤ addressSpaceSize) (hrest : stream.rest = data ++ rest)
    (hlen : data.length = counts.sum * instructionSize) (hd : decodeProgram b data = .ok code) :
    ∃ m', inPieces Simulated.host .readCode fd start (counts.map Nat.cast) m =
      (.ok (counts.map Nat.cast), m') := by
  induction counts generalizing m start stream data code with
  | nil => exact ⟨m, rfl⟩
  | cons n ns ih =>
    rw [List.sum_cons] at hend hlen
    rw [Nat.add_mul] at hlen
    obtain ⟨xs, ys, rfl, hx⟩ : ∃ xs ys, data = xs ++ ys ∧ xs.length = n * instructionSize :=
      ⟨_, _, (List.take_append_drop _ _).symm, List.length_take_of_le (by omega)⟩
    have hy : ys.length = ns.sum * instructionSize := by
      rw [List.length_append] at hlen
      omega
    have hmod : xs.length % instructionSize = 0 := by rw [hx, Nat.mul_mod_left]
    obtain ⟨c, d, hc, hd', rfl⟩ := (decodeProgram_append_eq_ok_iff hmod).1 hd
    rw [List.append_assoc] at hrest
    obtain ⟨m1, hask, hi, hs1⟩ := exists_ask_in_full hs hu hstart (by omega) hrest hx hc
    have hstart1 : start + n ≤ m1.program.length := by
      have hlength := hi.length_program hstart
      have hcount : c.length = n := by
        rw [length_of_decodeProgram hc, hx, Nat.mul_div_cancel _ (by decide)]
      omega
    obtain ⟨m', h⟩ := ih hs1 (hu.behind _) hstart1 (by omega) rfl hy hd'
    rw [Int.natCast_add] at h
    exact ⟨m', inPieces_cons_eq_ok_iff.2 ⟨_, m1, _, hask, h, rfl⟩⟩

theorem installed_from_zero {counts : List Nat} (hs : m.host.streams.find? fd = some stream)
    (hu : stream.Unhindered)
    (h : inPieces Simulated.host .readCode fd 0 (counts.map Nat.cast) m =
      (.ok (counts.map Nat.cast), m')) :
    counts.sum ≤ addressSpaceSize ∧
      ∃ data rest code, stream.rest = data ++ rest ∧
        data.length = counts.sum * instructionSize ∧ Installed fd 0 data code m m' ∧
        m'.host.streams.find? fd = some { stream with rest := rest } := by
  obtain ⟨hend, data, code, hcode, hi⟩ :=
    installed_inPieces hs hu (Nat.zero_le _) (Nat.zero_le _) h
  obtain ⟨rest, hrest, hs'⟩ := hi.gave.find? hs
  have hlen := hi.length_data
  rw [hcode] at hlen
  exact ⟨by omega, data, rest, code, hrest, hlen, hi, hs'⟩

/-- **A program may be installed in pieces.** On a stream that refuses and limits nothing, let a
call bring all the instructions that it asks for. A second call, for the places behind them, then
succeeds just where one call for both counts would have succeeded at first; their results add up to
its result, and they leave the same program and the same streams. Calls from the place zero on, each
asking for a count and bringing it, succeed just where there is room for all and the bytes of all
decode as one program, and it is the instructions of this program that then stand in front. -/
theorem readCode_splits (m : Machine b Simulated) (fd : Int) {stream : Stream}
    (hs : m.host.streams.find? fd = some stream) (hu : stream.Unhindered) :
    (∀ (start p q : Nat) (m1 : Machine b Simulated),
      ask Simulated.host .readCode fd start p m = (.ok p, m1) →
      ((∃ r m2, ask Simulated.host .readCode fd (start + p : Nat) q m1 = (.ok r, m2)) ↔
        ∃ t m', ask Simulated.host .readCode fd start (p + q : Nat) m = (.ok t, m')) ∧
      ∀ r m2 t m', ask Simulated.host .readCode fd (start + p : Nat) q m1 = (.ok r, m2) →
        ask Simulated.host .readCode fd start (p + q : Nat) m = (.ok t, m') →
        t = p + r ∧ m2.program = m'.program ∧ m2.host.streams.find? = m'.host.streams.find?) ∧
    ∀ counts : List Nat,
      ((∃ m', inPieces Simulated.host .readCode fd 0 (counts.map Nat.cast) m =
          (.ok (counts.map Nat.cast), m')) ↔
        counts.sum ≤ addressSpaceSize ∧ counts.sum * instructionSize ≤ stream.rest.length ∧
          ∃ code, decodeProgram b (stream.rest.take (counts.sum * instructionSize)) = .ok code) ∧
      ∀ m', inPieces Simulated.host .readCode fd 0 (counts.map Nat.cast) m =
          (.ok (counts.map Nat.cast), m') →
        ∃ code, decodeProgram b (stream.rest.take (counts.sum * instructionSize)) = .ok code ∧
          m'.program = code ++ m.program.drop code.length ∧
          m'.host.streams.find? fd =
            some { stream with rest := stream.rest.drop (counts.sum * instructionSize) } := by
  refine ⟨fun start p q m1 h => ⟨ask_behind_iff hs hu h, ?_⟩, fun counts => ⟨⟨?_, ?_⟩, ?_⟩⟩
  · intro r m2 t m' h2 h'
    exact ask_behind_eq hs hu h h2 h'
  · rintro ⟨m', h⟩
    obtain ⟨hend, data, rest, code, hrest, hlen, hi, -⟩ := installed_from_zero hs hu h
    rw [hrest, ← hlen, List.take_left, List.length_append]
    exact ⟨hend, Nat.le_add_right _ _, code, hi.decoded⟩
  · rintro ⟨hend, hle, code, hd⟩
    have hend' : 0 + counts.sum ≤ addressSpaceSize := by omega
    exact exists_inPieces hs hu (Nat.zero_le _) hend' (List.take_append_drop _ _).symm
      (List.length_take_of_le hle) hd
  · intro m' h
    obtain ⟨-, data, rest, code, hrest, hlen, hi, hs'⟩ := installed_from_zero hs hu h
    rw [hrest, ← hlen, List.take_left, List.drop_left]
    refine ⟨code, hi.decoded, ?_, hs'⟩
    rw [hi.program, splice, List.take_zero, List.nil_append, Nat.zero_add]

/-- Two instructions in a stream, and a byte behind them. -/
def stocked : Machine .standard Simulated :=
  fresh .standard [] (.ofSize .main 16) false
    { Simulated.empty with
      streams := Simulated.empty.streams.insert 5
        ⟨[2, 0x20, 0x20, 2, 0x40, 0x20, 9], none, none, none, none⟩ }

/-- The second of two calls for one instruction each ends as the call for both does. Calls in pieces
install the two instructions that the six bytes stand for. -/
theorem stocked_installs :
    (∃ m1 m2 m', ask Simulated.host .readCode 5 0 1 stocked = (.ok 1, m1) ∧
      ask Simulated.host .readCode 5 1 1 m1 = (.ok 1, m2) ∧
      ask Simulated.host .readCode 5 0 2 stocked = (.ok 2, m') ∧ m2.program = m'.program) ∧
    ∃ m', inPieces Simulated.host .readCode 5 0 [1, 1] stocked = (.ok [1, 1], m') ∧
      m'.program = [.sys 0x20 (some .A), .sys 0x40 (some .A)] := by
  obtain ⟨htwo, hpieces⟩ := readCode_splits stocked 5 rfl ⟨rfl, rfl⟩
  obtain ⟨m1, hone⟩ : ∃ m1, ask Simulated.host .readCode 5 0 1 stocked = (.ok 1, m1) :=
    exists_ok_of_toOption (by decide +kernel)
  obtain ⟨m', hboth⟩ : ∃ m', ask Simulated.host .readCode 5 0 2 stocked = (.ok 2, m') :=
    exists_ok_of_toOption (by decide +kernel)
  obtain ⟨m'', hin⟩ : ∃ m'', inPieces Simulated.host .readCode 5 0 [1, 1] stocked =
      (.ok [1, 1], m'') := exists_ok_of_toOption (by decide +kernel)
  obtain ⟨hiff, hadd⟩ := htwo 0 1 1 m1 hone
  obtain ⟨r, m2, hbehind⟩ := hiff.2 ⟨2, m', hboth⟩
  obtain ⟨hr, hprogram, -⟩ := hadd r m2 2 m' hbehind hboth
  obtain rfl : r = 1 := by omega
  obtain ⟨code, hd, hp, -⟩ := (hpieces [1, 1]).2 m'' hin
  refine ⟨⟨m1, m2, m', hone, hbehind, hboth, hprogram⟩, m'', hin, ?_⟩
  have hcode : (decodeProgram Bindings.standard [2, 0x20, 0x20, 2, 0x40, 0x20]).toOption =
      some [.sys 0x20 (some .A), .sys 0x40 (some .A)] := by decide +kernel
  have hd' : decodeProgram Bindings.standard [2, 0x20, 0x20, 2, 0x40, 0x20] = .ok code := hd
  rw [hd'] at hcode
  cases hcode
  exact hp

end Yan85.Machine
