import Yan85.Text.IntegerLiteral

/-! # Numerals and the integers that are read from them

* `Numeral base ds cs`: the characters `cs` write the digits `ds`, in any letter case and with single
  underscores between them.
* `digits_append`: the digits of a numeral are read up to where it ends.
* `read_decimal`: a decimal numeral with a sign and with blanks around it is read back, if it is
  within the limit.
* `read_hexadecimal`: a hexadecimal numeral is read back behind its mark.
-/

namespace Yan85.Text.IntegerLiteral
set_option autoImplicit false

/-- The character `c` is the digit `d`, in either letter case. -/
def IsDigit (base d : Nat) (c : Char) : Prop :=
  d < base ∧ (c = Nat.digitChar d ∨ c = (Nat.digitChar d).toUpper)

instance (base d : Nat) (c : Char) : Decidable (IsDigit base d c) :=
  inferInstanceAs (Decidable (_ ∧ _))

/-- The characters write the digits, the first one the highest; an underscore may stand between two
of them. -/
inductive Numeral (base : Nat) : List Nat → List Char → Prop
  | single {d : Nat} {c : Char} (h : IsDigit base d c) : Numeral base [d] [c]
  | cons {d : Nat} {c : Char} {ds : List Nat} {cs : List Char} (h : IsDigit base d c)
      (hs : Numeral base ds cs) : Numeral base (d :: ds) (c :: cs)
  | parted {d : Nat} {c : Char} {ds : List Nat} {cs : List Char} (h : IsDigit base d c)
      (hs : Numeral base ds cs) : Numeral base (d :: ds) (c :: '_' :: cs)

/-- What may stand before the digits of an integer. -/
inductive Sign
  | none
  | plus
  | minus

namespace Sign

def chars : Sign → List Char
  | none => []
  | plus => ['+']
  | minus => ['-']

/-- The integer with this sign. -/
def apply : Sign → Nat → Int
  | minus, n => -Int.ofNat n
  | _, n => Int.ofNat n

end Sign

/-! ## Digits -/

section Digits

variable {base d : Nat} {c : Char} {ds : List Nat} {cs rest : List Char}

/-- A statement about all digits up to sixteen can be checked one after the other. -/
theorem IsDigit.of_forall {p : Nat → Char → Prop} (hb : base ≤ 16)
    (hp : ∀ k : Fin 16, p k (Nat.digitChar k) ∧ p k (Nat.digitChar k).toUpper)
    (h : IsDigit base d c) : p d c := by
  obtain ⟨hd, rfl | rfl⟩ := h
  · exact (hp ⟨d, by omega⟩).1
  · exact (hp ⟨d, by omega⟩).2

theorem digit?_eq_of_isDigit (hb : base ≤ 16) (h : IsDigit base d c) : digit? base c = some d := by
  have h16 : digit? 16 c = some d :=
    h.of_forall (p := fun d c => digit? 16 c = some d) hb (by decide +kernel)
  unfold digit? at h16 ⊢
  rw [Option.filter_eq_some_iff] at h16 ⊢
  exact ⟨h16.1, decide_eq_true h.1⟩

theorem narrow_of_isDigit (hb : base ≤ 16) (h : IsDigit base d c) : narrow c = c :=
  h.of_forall (p := fun _ c => narrow c = c) hb (by decide +kernel)

theorem narrow_numeral (hb : base ≤ 16) (h : Numeral base ds cs) : cs.map narrow = cs := by
  have hline : narrow '_' = '_' := by decide +kernel
  induction h with
  | single h => rw [List.map_singleton, narrow_of_isDigit hb h]
  | cons h _ ih => rw [List.map_cons, narrow_of_isDigit hb h, ih]
  | parted h _ ih => rw [List.map_cons, List.map_cons, narrow_of_isDigit hb h, hline, ih]

theorem exists_cons_of_numeral (h : Numeral base ds cs) :
    ∃ d c cs', cs = c :: cs' ∧ IsDigit base d c := by
  cases h with
  | single h | cons h | parted h => exact ⟨_, _, _, rfl, h⟩

/-- The digits of a numeral are read up to where it ends. -/
theorem digits_append (hb : base ≤ 16) (h : Numeral base ds cs)
    (hrest : digits base false rest = some ([], rest)) (parted : Bool) :
    digits base parted (cs ++ rest) = some (ds, rest) := by
  have hline : digit? base '_' = none := rfl
  induction h generalizing parted with
  | single h =>
    rw [List.singleton_append, digits, digit?_eq_of_isDigit hb h]
    simp only [hrest, Option.map_some]
  | cons h _ ih =>
    rw [List.cons_append, digits, digit?_eq_of_isDigit hb h]
    simp only [ih, Option.map_some]
  | parted h _ ih =>
    rw [List.cons_append, List.cons_append, digits, digit?_eq_of_isDigit hb h]
    simp only [digits, hline, ih]
    rfl

end Digits

/-! ## Integers -/

section Reading

variable {ds : List Nat} {cs before after : List Char} {m : Char}

theorem digits_of_blanks {base : Nat} (h : ∀ c ∈ cs, c = ' ') :
    digits base false cs = some ([], cs) := by
  cases cs with
  | nil => rfl
  | cons c cs =>
    obtain rfl := h c List.mem_cons_self
    rfl

theorem dropMark_ten (cs : List Char) : dropMark 10 cs = cs := by
  unfold dropMark
  split <;> rfl

theorem magnitude_decimal (h : Numeral 10 ds cs) (ha : ∀ c ∈ after, c = ' ') :
    magnitude 10 (cs ++ after) =
      if digitLimit < ds.length then .error (.tooLong ds.length) else .ok (value 10 ds) := by
  have hall : after.all (· == ' ') = true := by simpa using ha
  unfold magnitude
  rw [dropMark_ten, digits_append (by decide) h (digits_of_blanks ha) true]
  simp only [true_and, hall, if_true]

theorem magnitude_hexadecimal (hm : m = 'x' ∨ m = 'X') (h : Numeral 16 ds cs) :
    magnitude 16 ('0' :: m :: cs) = .ok (value 16 ds) := by
  have hmark : (markLetters 16).contains m = true := by
    obtain rfl | rfl := hm <;> rfl
  have hdrop : dropMark 16 ('0' :: m :: cs) = cs := by
    obtain ⟨d, c, cs', rfl, hd⟩ := exists_cons_of_numeral h
    have hc : c ≠ '_' := hd.of_forall (p := fun _ c => c ≠ '_') (by decide) (by decide)
    simp only [dropMark, hmark, if_true]
    split
    case h_1 he => exact absurd (List.cons.inj he).1 hc
    case h_2 => rfl
  have hread : digits 16 true cs = some (ds, []) := by
    have hend : digits 16 false [] = some ([], []) := rfl
    have hd := digits_append (by decide) h hend true
    rwa [List.append_nil] at hd
  unfold magnitude
  rw [hdrop, hread]
  rfl

theorem read_hexadecimal (hm : m = 'x' ∨ m = 'X') (h : Numeral 16 ds cs) :
    read 16 ('0' :: m :: cs) = .ok (value 16 ds) := by
  have hnarrow : ('0' :: m :: cs).map narrow = '0' :: m :: cs := by
    have h0 : narrow '0' = '0' := by decide +kernel
    have hx : narrow m = m := by obtain rfl | rfl := hm <;> decide +kernel
    rw [List.map_cons, List.map_cons, h0, hx, narrow_numeral (by decide) h]
  unfold read
  rw [hnarrow]
  change (magnitude 16 ('0' :: m :: cs)).map Int.ofNat = _
  rw [magnitude_hexadecimal hm h]
  rfl

theorem map_narrow_blanks (h : ∀ c ∈ cs, isBlank c = true) : ∀ c ∈ cs.map narrow, c = ' ' := by
  intro c hc
  obtain ⟨b, hb, rfl⟩ := List.mem_map.1 hc
  exact if_pos (h b hb)

theorem dropWhile_blanks (hb : ∀ c ∈ before, c = ' ') (cs : List Char) :
    (before ++ cs).dropWhile (· == ' ') = cs.dropWhile (· == ' ') :=
  List.dropWhile_append_of_pos (by simpa using hb)

/-- A decimal numeral with a sign and with blanks around it is read back, or it is too long. -/
theorem read_decimal (s : Sign) (hb : ∀ c ∈ before, isBlank c = true)
    (ha : ∀ c ∈ after, isBlank c = true) (h : Numeral 10 ds cs) :
    read 10 (before ++ s.chars ++ cs ++ after) =
      if digitLimit < ds.length then .error (.tooLong ds.length)
      else .ok (s.apply (value 10 ds)) := by
  have hmap : (before ++ s.chars ++ cs ++ after).map narrow =
      before.map narrow ++ (s.chars ++ (cs ++ after.map narrow)) := by
    have hs : s.chars.map narrow = s.chars := by cases s <;> decide +kernel
    simp only [List.map_append, hs, narrow_numeral (by decide) h, List.append_assoc]
  have hmag := magnitude_decimal h (map_narrow_blanks ha)
  unfold read
  rw [hmap, dropWhile_blanks (map_narrow_blanks hb)]
  cases s with
  | none =>
    obtain ⟨d, c, cs', rfl, hd⟩ := exists_cons_of_numeral h
    obtain ⟨hspace, hminus, hplus⟩ := hd.of_forall
      (p := fun _ c => (c == ' ') = false ∧ c ≠ '-' ∧ c ≠ '+') (by decide) (by decide)
    rw [Sign.chars, List.nil_append, List.cons_append,
      List.dropWhile_cons_of_neg (by simp [hspace])]
    split
    case h_1 he => exact absurd (List.cons.inj he).1 hminus
    case h_2 he => exact absurd (List.cons.inj he).1 hplus
    case h_3 =>
      rw [← List.cons_append, hmag]
      split <;> rfl
  | plus =>
    change (magnitude 10 (cs ++ after.map narrow)).map Int.ofNat = _
    rw [hmag]
    split <;> rfl
  | minus =>
    change (magnitude 10 (cs ++ after.map narrow)).map (fun n => - Int.ofNat n) = _
    rw [hmag]
    split <;> rfl

end Reading

end Yan85.Text.IntegerLiteral
