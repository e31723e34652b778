import Yan85.Text.Basic

/-! # UTF-8

* `sequence?`: the code point that starts a byte string, in its shortest form and no surrogate.
* `decodeStart?`: a byte string that may break off inside of a sequence.
* `decode?`: a whole byte string, refused if any byte is out of place.
* `codePoints`: a whole byte string in which a byte out of place stands as the surrogate
  0xDC00 plus its value, so that nothing is lost.
-/

namespace Yan85.Text.Utf8
set_option autoImplicit false

/-- Whether `b` continues a sequence. -/
def isContinuation (b : UInt8) : Bool := 0x80 ≤ b.toNat && b.toNat ≤ 0xBF

/-- The six low bits that a continuation byte carries. -/
def payload (b : UInt8) : Nat := b.toNat % 0x40

/-- What a first byte announces: the number of bytes that follow, the bits that it carries itself,
and the least and the greatest code point written with that many bytes. -/
structure Lead where
  following : Nat
  bits : Nat
  least : Nat
  greatest : Nat

/-- The meaning of a byte as the first one of a sequence. -/
def lead? (b : UInt8) : Option Lead :=
  let n := b.toNat
  if n < 0x80 then some ⟨0, n, 0, 0x7F⟩
  else if 0xC2 ≤ n ∧ n ≤ 0xDF then some ⟨1, n - 0xC0, 0x80, 0x7FF⟩
  else if 0xE0 ≤ n ∧ n ≤ 0xEF then some ⟨2, n - 0xE0, 0x800, 0xFFFF⟩
  else if 0xF0 ≤ n ∧ n ≤ 0xF4 then some ⟨3, n - 0xF0, 0x10000, 0x10FFFF⟩
  else none

/-- The code point at the start of a byte string, and the bytes after it. -/
def sequence? : List UInt8 → Option (Nat × List UInt8)
  | [] => none
  | b :: r =>
    match lead? b with
    | none => none
    | some l =>
      let tail := r.take l.following
      let c := tail.foldl (fun n x => n * 0x40 + payload x) l.bits
      if tail.length = l.following ∧ tail.all isContinuation ∧ l.least ≤ c ∧ c ≤ l.greatest ∧
          ¬ isSurrogate c then some (c, r.drop l.following)
      else none

theorem length_le_of_sequence? {b : UInt8} {bs r : List UInt8} {c : Nat}
    (h : sequence? (b :: bs) = some (c, r)) : r.length ≤ bs.length := by
  simp only [sequence?] at h
  split at h
  · cases h
  · simp only [Option.ite_none_right_eq_some, Option.some.injEq, Prod.mk.injEq] at h
    obtain ⟨-, -, rfl⟩ := h
    simp

/-- Whether a byte string breaks off inside of a sequence that could still be completed, if only to
that of a surrogate. -/
def isIncomplete (bs : List UInt8) : Bool :=
  match bs with
  | [] => false
  | b :: r =>
    match lead? b with
    | none => false
    | some l =>
      let filled := fun (x : UInt8) =>
        (r ++ List.replicate (l.following - r.length) x).foldl
          (fun n y => n * 0x40 + payload y) l.bits
      r.length < l.following && r.all isContinuation && filled 0x80 ≤ l.greatest &&
        l.least ≤ filled 0xBF

/-- The characters at the start of a byte string, and the bytes of one that is not complete at its
end; `none` if a byte is out of place. -/
def decodeStart? (bs : List UInt8) : Option (List Char × List UInt8) :=
  match bs with
  | [] => some ([], [])
  | b :: r =>
    match h : sequence? (b :: r) with
    | some (c, rest) =>
      have : rest.length ≤ r.length := length_le_of_sequence? h
      (decodeStart? rest).map fun p => (Char.ofNat c :: p.1, p.2)
    | none => if isIncomplete (b :: r) then some ([], b :: r) else none
termination_by bs.length
decreasing_by simp only [List.length_cons]; omega

/-- The text of a byte string, if it is well formed throughout. -/
def decode? (bs : List UInt8) : Option (List Char) :=
  match decodeStart? bs with
  | some (cs, []) => some cs
  | _ => none

/-- The code points of a byte string; a byte out of place stands as a surrogate. -/
def codePoints (bs : List UInt8) : List Nat :=
  match bs with
  | [] => []
  | b :: r =>
    match h : sequence? (b :: r) with
    | some (c, rest) =>
      have : rest.length ≤ r.length := length_le_of_sequence? h
      c :: codePoints rest
    | none => (0xDC00 + b.toNat) :: codePoints r
termination_by bs.length
decreasing_by all_goals simp only [List.length_cons]; omega

end Yan85.Text.Utf8
