import Mathlib.Data.Nat.Digits.Defs
import Yan85.Proofs.Bindings.Exports

/-! # Numbers are read from their digits

* `digitsOf base n`: the digits of a number, the first one the highest.
* `Spells base n cs`: the characters `cs` are these digits, in any letter case, behind any number of
  zeros, and with single underscores between them.
* `HexadecimalText n text`, `DecimalText s n text`: such digits behind a mark, or behind the sign
  `s` and with blanks around.
* `value_of_spells`: the value of the digits is the number.
* `countP_isDigit_decimal`: the digits that are counted for the limit are the ASCII digits of the
  whole text.
* `spelled_numbers_read`: a number is read from every such text, in base 16 of any length, and in
  base 10 up to the limit.
-/

namespace Yan85
set_option autoImplicit false

open Text Text.IntegerLiteral

namespace Text.IntegerLiteral

variable {base n : Nat} {ds : List Nat} {cs before after : List Char}

/-! ## Digits of a number -/

/-- The digits of a number, the first one the highest. Zero has the digit 0. -/
def digitsOf (base n : Nat) : List Nat := if n = 0 then [0] else (Nat.digits base n).reverse

/-- The characters write the digits of the number `n` behind any number of zeros. -/
def Spells (base n : Nat) (cs : List Char) : Prop :=
  ∃ zeros, Numeral base (List.replicate zeros 0 ++ digitsOf base n) cs

/-- The characters are the hexadecimal digits of `n` behind the mark. -/
inductive HexadecimalText (n : Nat) : List Char → Prop
  | intro {m : Char} {cs : List Char} (hm : m = 'x' ∨ m = 'X') (h : Spells 16 n cs) :
      HexadecimalText n ('0' :: m :: cs)

/-- The characters are the decimal digits of `n` behind the sign `s`, with blanks around both. -/
inductive DecimalText (s : Sign) (n : Nat) : List Char → Prop
  | intro {before cs after : List Char} (hb : ∀ c ∈ before, isBlank c = true)
      (ha : ∀ c ∈ after, isBlank c = true) (h : Spells 10 n cs) :
      DecimalText s n (before ++ s.chars ++ cs ++ after)

theorem value_concat (ds : List Nat) (d : Nat) :
    value base (ds ++ [d]) = value base ds * base + d := by
  unfold value
  rw [List.foldl_append, List.foldl_cons, List.foldl_nil]

theorem value_reverse (ds : List Nat) : value base ds.reverse = Nat.ofDigits base ds := by
  induction ds with
  | nil => rfl
  | cons d ds ih =>
    rw [List.reverse_cons, value_concat, ih, Nat.ofDigits_cons, Nat.mul_comm, Nat.add_comm]

theorem ofDigits_digitsOf (base n : Nat) : Nat.ofDigits base (digitsOf base n).reverse = n := by
  unfold digitsOf
  by_cases hn : n = 0
  · rw [if_pos hn, hn]
    rfl
  · rw [if_neg hn, List.reverse_reverse, Nat.ofDigits_digits]

/-- Zeros in front do not count. -/
theorem value_zeros_append (zeros : Nat) :
    value base (List.replicate zeros 0 ++ digitsOf base n) = n := by
  have hrev : (List.replicate zeros 0 ++ digitsOf base n).reverse =
      (digitsOf base n).reverse ++ List.replicate zeros 0 := by
    rw [List.reverse_append, List.reverse_replicate]
  rw [← List.reverse_reverse (List.replicate zeros 0 ++ digitsOf base n), value_reverse, hrev,
    Nat.ofDigits_append_replicate_zero, ofDigits_digitsOf]

theorem value_of_spells (h : Spells base n cs) : ∃ ds, Numeral base ds cs ∧ value base ds = n := by
  obtain ⟨zeros, hz⟩ := h
  exact ⟨_, hz, value_zeros_append zeros⟩

/-- The plain way of writing digits. -/
theorem numeral_map_digitChar (h0 : ds ≠ []) (hd : ∀ d ∈ ds, d < base) :
    Numeral base ds (ds.map Nat.digitChar) := by
  induction ds with
  | nil => exact absurd rfl h0
  | cons d ds ih =>
    obtain ⟨hlt, hds⟩ := List.forall_mem_cons.1 hd
    have hc : IsDigit base d (Nat.digitChar d) := ⟨hlt, .inl rfl⟩
    cases ds with
    | nil => exact .single hc
    | cons e ds => exact .cons hc (ih (List.cons_ne_nil e ds) hds)

/-! ## Digits of a text -/

theorem countP_isDigit_numeral (h : Numeral 10 ds cs) : cs.countP Char.isDigit = ds.length := by
  have hdigit : ∀ {d c}, IsDigit 10 d c → c.isDigit = true := fun hd =>
    hd.of_forall (p := fun d c => d < 10 → c.isDigit = true) (by decide) (by decide) hd.1
  have hline : ¬ '_'.isDigit = true := by decide
  induction h with
  | single h => rw [List.countP_singleton, if_pos (hdigit h), List.length_singleton]
  | cons h _ ih => rw [List.countP_cons_of_pos (hdigit h), ih, List.length_cons]
  | parted h _ ih =>
    rw [List.countP_cons_of_pos (hdigit h), List.countP_cons_of_neg hline, ih, List.length_cons]

theorem countP_isDigit_blanks (h : ∀ c ∈ cs, isBlank c = true) : cs.countP Char.isDigit = 0 := by
  rw [List.countP_eq_zero]
  intro c hc hd
  have hall : ∀ k : Fin 10, isBlank (Char.ofNat (48 + k)) = false := by decide +kernel
  obtain ⟨h0, h9⟩ : 48 ≤ c.toNat ∧ c.toNat ≤ 57 := by
    simpa [Char.isDigit, UInt32.le_iff_toNat_le] using hd
  have hk := hall ⟨c.toNat - 48, by omega⟩
  have he : 48 + (c.toNat - 48) = c.toNat := by omega
  simp only [he, Char.ofNat_toNat] at hk
  rw [h c hc] at hk
  cases hk

/-- The digits of a decimal numeral are those of the whole text. -/
theorem countP_isDigit_decimal (s : Sign) (hb : ∀ c ∈ before, isBlank c = true)
    (ha : ∀ c ∈ after, isBlank c = true) (h : Numeral 10 ds cs) :
    (before ++ s.chars ++ cs ++ after).countP Char.isDigit = ds.length := by
  have hs : s.chars.countP Char.isDigit = 0 := by cases s <;> rfl
  rw [List.countP_append, List.countP_append, List.countP_append, countP_isDigit_blanks hb, hs,
    countP_isDigit_numeral h, countP_isDigit_blanks ha]
  omega

end Text.IntegerLiteral

namespace Tables

/-! ## Numbers in texts -/

section Numbers

variable {n : Nat} {s : Sign} {text : List Char}

theorem integer?_hexadecimal (h : HexadecimalText n text) :
    integer? (.text (.ofChars text)) = .ok n := by
  obtain ⟨hm, hs⟩ := h
  obtain ⟨ds, hds, hn⟩ := value_of_spells hs
  rw [← hn]
  exact integer?_eq_ok (.hexadecimal hm hds)

theorem integer?_decimal (h : DecimalText s n text) (hl : text.countP Char.isDigit ≤ digitLimit) :
    integer? (.text (.ofChars text)) = .ok (s.apply n) := by
  obtain ⟨hb, ha, hs⟩ := h
  obtain ⟨ds, hds, hn⟩ := value_of_spells hs
  rw [countP_isDigit_decimal s hb ha hds] at hl
  rw [← hn]
  exact integer?_eq_ok (.decimal s hb ha hds hl)

theorem integer?_tooLong (h : DecimalText s n text)
    (hl : digitLimit < text.countP Char.isDigit) :
    integer? (.text (.ofChars text)) = .error (.notInteger (.text (.ofChars text))) := by
  obtain ⟨hb, ha, hs⟩ := h
  obtain ⟨ds, hds, -⟩ := value_of_spells hs
  rw [countP_isDigit_decimal s hb ha hds] at hl
  have hread := read_decimal s hb ha hds
  rw [if_pos hl] at hread
  simp only [integer?, chars_ofChars, not_hasHexMark_decimal s hb ha hds, Bool.false_eq_true,
    if_false, hread]

/-- **Numbers are read from their digits.** Behind the mark `0x` or `0X`, the hexadecimal digits of
a number in any letter case are read as the number, however many there are. Its decimal digits, with
a sign in front and with blanks around both, are read as the number with this sign if the text has
at most 4300 digits, and refused if it has more. In both there may be zeros in front and single
underscores between the digits. -/
theorem spelled_numbers_read (n : Nat) (text : List Char) :
    (HexadecimalText n text → integer? (.text (.ofChars text)) = .ok n) ∧
      ∀ s, DecimalText s n text →
        (text.countP Char.isDigit ≤ 4300 →
          integer? (.text (.ofChars text)) = .ok (s.apply n)) ∧
        (4300 < text.countP Char.isDigit →
          ∃ f, integer? (.text (.ofChars text)) = .error f ∧ f.kind = .constants) :=
  ⟨integer?_hexadecimal, fun _ h =>
    ⟨integer?_decimal h, fun hl => ⟨_, integer?_tooLong h hl, rfl⟩⟩⟩

/-- A seven behind as many zeros as a decimal numeral may have digits. -/
def longSeven : List Char := (List.replicate 4300 0 ++ [7]).map Nat.digitChar

theorem numeral_longSeven : Numeral 10 (List.replicate 4300 0 ++ [7]) longSeven := by
  refine numeral_map_digitChar (List.append_ne_nil_of_right_ne_nil _ (by decide)) fun d hm => ?_
  obtain hm | hm := List.mem_append.1 hm
  · rw [List.eq_of_mem_replicate hm]
    decide
  · rw [List.mem_singleton.1 hm]
    decide

/-- A number is read from two spellings, and another one is refused in a spelling that is too
long. -/
theorem spellings_read :
    HexadecimalText 255 "0X0_fF".toList ∧
      integer? (.text (.ofChars "0X0_fF".toList)) = .ok 255 ∧
    DecimalText .minus 255 " -02_55\n".toList ∧
      integer? (.text (.ofChars " -02_55\n".toList)) = .ok (-255) ∧
    DecimalText .none 7 longSeven ∧
      ∃ f, integer? (.text (.ofChars longSeven)) = .error f ∧ f.kind = .constants := by
  have hx : digitsOf 16 255 = [15, 15] := by simp [digitsOf]
  have hd : digitsOf 10 255 = [2, 5, 5] := by simp [digitsOf]
  have h7 : digitsOf 10 7 = [7] := by simp [digitsOf]
  have hhex : HexadecimalText 255 "0X0_fF".toList := by
    refine .intro (.inr rfl) ⟨1, ?_⟩
    rw [hx]
    exact .parted (by decide) (.cons (by decide) (.single (by decide)))
  have hdec : DecimalText .minus 255 " -02_55\n".toList := by
    refine @DecimalText.intro _ _ [' '] ['0', '2', '_', '5', '5'] ['\n']
      (List.forall_mem_singleton.2 (by decide)) (List.forall_mem_singleton.2 (by decide)) ⟨1, ?_⟩
    rw [hd]
    exact .cons (by decide) (.parted (by decide) (.cons (by decide) (.single (by decide))))
  have hlong : DecimalText .none 7 longSeven := by
    have h := @DecimalText.intro .none 7 [] longSeven [] (List.forall_mem_nil _)
      (List.forall_mem_nil _) ⟨4300, by rw [h7]; exact numeral_longSeven⟩
    rwa [List.append_nil] at h
  have hcount : longSeven.countP Char.isDigit = 4301 := by
    rw [countP_isDigit_numeral numeral_longSeven, List.length_append, List.length_replicate]
    rfl
  have hover : 4300 < longSeven.countP Char.isDigit := by
    rw [hcount]
    decide
  exact ⟨hhex, (spelled_numbers_read 255 _).1 hhex,
    hdec, ((spelled_numbers_read 255 _).2 _ hdec).1 (by decide),
    hlong, ((spelled_numbers_read 7 _).2 _ hlong).2 hover⟩

end Numbers

end Tables

end Yan85
