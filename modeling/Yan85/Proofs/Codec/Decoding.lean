import Yan85.Codec
import Yan85.Proofs.Results

/-! # What decoding gives

* `proper_of_decodeProgram`: every instruction of a decoded program has the registers that it needs.
* `length_of_decodeProgram`: three bytes for each instruction.
* `decodeProgram_append_eq_ok_iff`: a program may be decoded in two parts.
* `kind_of_decodeProgram`: the kinds of faults with which bytes are refused.
* `decodeProgram_fails_otherwise_iff`: when they are refused with anything but a fault of decoding.
-/

namespace Yan85
set_option autoImplicit false

variable {b : Bindings}

/-! ## What is decoded -/

theorem isSome_of_decodeRegister {m : Mnemonic} {x : UInt8} {o : Operand}
    (h : decodeRegister b m x = .ok o) : o.isSome = true := by
  obtain ⟨o', -, ho⟩ := bind_eq_ok h
  cases o' with
  | none => cases ho
  | some r =>
    cases ho
    rfl

/-- Two registers, decoded one after the other. -/
theorem isSome_of_decodeRegisters {m : Mnemonic} {x y : UInt8} {i : Instruction}
    {build : Operand → Operand → Instruction}
    (h : (do return build (← decodeRegister b m x) (← decodeRegister b m y)) = Except.ok i) :
    ∃ r q, i = build r q ∧ (r.isSome && q.isSome) = true := by
  obtain ⟨r, hr, h⟩ := bind_eq_ok h
  obtain ⟨q, hq, h⟩ := bind_eq_ok h
  cases h
  refine ⟨r, q, rfl, ?_⟩
  rw [isSome_of_decodeRegister hr, isSome_of_decodeRegister hq]
  rfl

theorem proper_of_decodeFields {m : Mnemonic} {x y : UInt8} {i : Instruction}
    (h : decodeFields b m x y = .ok i) : i.IsProper := by
  cases m with
  | imm =>
    obtain ⟨r, hr, h⟩ := bind_eq_ok h
    cases h
    exact isSome_of_decodeRegister hr
  | stk =>
    obtain ⟨r, -, h⟩ := bind_eq_ok h
    obtain ⟨q, -, h⟩ := bind_eq_ok h
    cases h
    rfl
  | jmp =>
    obtain ⟨r, hr, h⟩ := bind_eq_ok h
    cases h
    exact isSome_of_decodeRegister hr
  | sys =>
    obtain ⟨r, hr, h⟩ := bind_eq_ok h
    cases h
    exact isSome_of_decodeRegister hr
  | add =>
    obtain ⟨r, q, rfl, hp⟩ := isSome_of_decodeRegisters h
    exact hp
  | stm =>
    obtain ⟨r, q, rfl, hp⟩ := isSome_of_decodeRegisters h
    exact hp
  | ldm =>
    obtain ⟨r, q, rfl, hp⟩ := isSome_of_decodeRegisters h
    exact hp
  | cmp =>
    obtain ⟨r, q, rfl, hp⟩ := isSome_of_decodeRegisters h
    exact hp

theorem proper_of_decodeTriple {x y z : UInt8} {i : Instruction}
    (h : decodeTriple b x y z = .ok i) : i.IsProper := by
  unfold decodeTriple at h
  split at h
  · simp only at h
    cases hm : b.boundMnemonic? (byteValue (fieldByte b x y z .op)) with
    | none =>
      rw [hm] at h
      cases h
    | some m =>
      rw [hm] at h
      exact proper_of_decodeFields h
  · cases h

theorem proper_of_decodeTriples {data : List UInt8} {code : List Instruction}
    (h : decodeTriples b data = .ok code) : ∀ i ∈ code, i.IsProper := by
  induction data using decodeTriples.induct generalizing code with
  | case1 x y z rest ih =>
    obtain ⟨i, hi, h⟩ := bind_eq_ok h
    obtain ⟨code', hc, h⟩ := bind_eq_ok h
    cases h
    intro j hj
    obtain rfl | hj := List.mem_cons.1 hj
    · exact proper_of_decodeTriple hi
    · exact ih hc j hj
  | case2 data hne =>
    rw [decodeTriples.eq_2 b data hne] at h
    cases h
    intro i hi
    cases hi

theorem length_of_decodeTriples {data : List UInt8} {code : List Instruction}
    (h : decodeTriples b data = .ok code) : code.length = data.length / instructionSize := by
  induction data using decodeTriples.induct generalizing code with
  | case1 x y z rest ih =>
    obtain ⟨i, -, h⟩ := bind_eq_ok h
    obtain ⟨code', hc, h⟩ := bind_eq_ok h
    cases h
    have hl := ih hc
    simp only [List.length_cons, instructionSize] at hl ⊢
    omega
  | case2 data hne =>
    rw [decodeTriples.eq_2 b data hne] at h
    cases h
    match data, hne with
    | [], _ => rfl
    | [_], _ => simp [instructionSize]
    | [_, _], _ => simp [instructionSize]
    | x :: y :: z :: rest, hne => exact absurd rfl (hne x y z rest)

theorem proper_of_decodeProgram {data : List UInt8} {code : List Instruction}
    (h : decodeProgram b data = .ok code) : ∀ i ∈ code, i.IsProper := by
  unfold decodeProgram at h
  split at h
  · exact proper_of_decodeTriples h
  · cases h

theorem length_of_decodeProgram {data : List UInt8} {code : List Instruction}
    (h : decodeProgram b data = .ok code) : code.length = data.length / instructionSize := by
  unfold decodeProgram at h
  split at h
  · exact length_of_decodeTriples h
  · cases h

/-! ## Programs in two parts -/

theorem decodeTriples_append_eq_ok_iff {xs ys : List UInt8} {code : List Instruction}
    (h : xs.length % instructionSize = 0) :
    decodeTriples b (xs ++ ys) = .ok code ↔
      ∃ c d, decodeTriples b xs = .ok c ∧ decodeTriples b ys = .ok d ∧ code = c ++ d := by
  induction xs using decodeTriples.induct generalizing code with
  | case1 x y z rest ih =>
    have hrest : rest.length % instructionSize = 0 := by
      simp only [List.length_cons, instructionSize] at h ⊢
      omega
    constructor
    · intro hc
      obtain ⟨i, hi, hc⟩ := bind_eq_ok hc
      obtain ⟨code', hcode, hc⟩ := bind_eq_ok hc
      cases hc
      obtain ⟨c, d, hx, hy, rfl⟩ := (ih hrest).1 hcode
      refine ⟨i :: c, d, ?_, hy, rfl⟩
      rw [decodeTriples, hi, hx]
      rfl
    · rintro ⟨c, d, hc, hy, rfl⟩
      obtain ⟨i, hi, hc⟩ := bind_eq_ok hc
      obtain ⟨c', hx, hc⟩ := bind_eq_ok hc
      cases hc
      have hcode := (ih hrest).2 ⟨c', d, hx, hy, rfl⟩
      change decodeTriples b (x :: y :: z :: (rest ++ ys)) = _
      rw [decodeTriples, hi, hcode]
      rfl
  | case2 xs hne =>
    obtain rfl : xs = [] := by
      match xs, hne, h with
      | [], _, _ => rfl
      | [_], _, h => cases h
      | [_, _], _, h => cases h
      | x :: y :: z :: rest, hne, _ => exact absurd rfl (hne x y z rest)
    constructor
    · intro hc
      exact ⟨[], code, rfl, hc, rfl⟩
    · rintro ⟨c, d, ⟨⟩, hd, rfl⟩
      exact hd

/-- Behind whole instructions, decoding begins anew. -/
theorem decodeProgram_append_eq_ok_iff {xs ys : List UInt8} {code : List Instruction}
    (h : xs.length % instructionSize = 0) :
    decodeProgram b (xs ++ ys) = .ok code ↔
      ∃ c d, decodeProgram b xs = .ok c ∧ decodeProgram b ys = .ok d ∧ code = c ++ d := by
  have hlen : (xs ++ ys).length % instructionSize = ys.length % instructionSize := by
    rw [List.length_append]
    unfold instructionSize at h ⊢
    omega
  unfold decodeProgram
  rw [hlen, if_pos h]
  by_cases hy : ys.length % instructionSize = 0
  · rw [if_pos hy, if_pos hy]
    exact decodeTriples_append_eq_ok_iff h
  · rw [if_neg hy, if_neg hy]
    constructor
    · rintro ⟨⟩
    · rintro ⟨c, d, -, ⟨⟩, -⟩

/-- Bytes that decode are whole instructions. -/
theorem length_eq_of_decodeProgram {data : List UInt8} {code : List Instruction}
    (h : decodeProgram b data = .ok code) : data.length = code.length * instructionSize := by
  have hl := length_of_decodeProgram h
  unfold decodeProgram at h
  split at h
  case isTrue hmod =>
    unfold instructionSize at hl hmod ⊢
    omega
  case isFalse => cases h

/-! ## What is refused -/

/-- The bytes are wrong, or the layout of the encoding is. -/
abbrev Fault.OfDecoding (f : Fault) : Prop := f.kind = .decode ∨ f = .fractionalPlace

theorem kind_of_decodeOperand {x : UInt8} {f : Fault} (h : decodeOperand b x = .error f) :
    f.kind = .decode := by
  unfold decodeOperand at h
  split at h
  · cases h
  · cases hr : b.boundRegister? (byteValue x) with
    | none =>
      rw [hr] at h
      cases h
      rfl
    | some r =>
      rw [hr] at h
      cases h

theorem kind_of_decodeRegister {m : Mnemonic} {x : UInt8} {f : Fault}
    (h : decodeRegister b m x = .error f) : f.kind = .decode := by
  obtain h | ⟨o, -, h⟩ := bind_eq_error h
  · exact kind_of_decodeOperand h
  · cases o with
    | none =>
      cases h
      rfl
    | some r => cases h

/-- Two operands, decoded one after the other. -/
theorem kind_of_both {α : Type} {x y : Except Fault Operand} {build : Operand → Operand → α}
    {f : Fault} (hx : ∀ f, x = .error f → f.kind = .decode)
    (hy : ∀ f, y = .error f → f.kind = .decode)
    (h : (do return build (← x) (← y)) = Except.error f) : f.kind = .decode := by
  obtain h | ⟨r, -, h⟩ := bind_eq_error h
  · exact hx f h
  · obtain h | ⟨q, -, h⟩ := bind_eq_error h
    · exact hy f h
    · cases h

theorem kind_of_one {α : Type} {x : Except Fault Operand} {build : Operand → α} {f : Fault}
    (hx : ∀ f, x = .error f → f.kind = .decode) (h : (do return build (← x)) = Except.error f) :
    f.kind = .decode := by
  obtain h | ⟨r, -, h⟩ := bind_eq_error h
  · exact hx f h
  · cases h

theorem kind_of_decodeFields {m : Mnemonic} {x y : UInt8} {f : Fault}
    (h : decodeFields b m x y = .error f) : f.kind = .decode := by
  have hr : ∀ (m : Mnemonic) (x : UInt8) (f : Fault), decodeRegister b m x = .error f →
    f.kind = .decode := fun m x f => kind_of_decodeRegister
  have ho : ∀ (x : UInt8) (f : Fault), decodeOperand b x = .error f → f.kind = .decode :=
    fun x f => kind_of_decodeOperand
  cases m with
  | imm => exact kind_of_one (hr _ _) h
  | stk => exact kind_of_both (ho _) (ho _) h
  | jmp => exact kind_of_one (hr _ _) h
  | sys => exact kind_of_one (hr _ _) h
  | add => exact kind_of_both (hr _ _) (hr _ _) h
  | stm => exact kind_of_both (hr _ _) (hr _ _) h
  | ldm => exact kind_of_both (hr _ _) (hr _ _) h
  | cmp => exact kind_of_both (hr _ _) (hr _ _) h

theorem kind_of_decodeTriple {x y z : UInt8} {f : Fault}
    (h : decodeTriple b x y z = .error f) :
    f.kind = .decode ∨ f = .fractionalPlace ∧ b.layout.isWhole = false := by
  unfold decodeTriple at h
  by_cases hw : b.layout.isWhole = true
  · simp only [if_pos hw] at h
    cases hm : b.boundMnemonic? (byteValue (fieldByte b x y z .op)) with
    | none =>
      rw [hm] at h
      cases h
      exact .inl rfl
    | some m =>
      rw [hm] at h
      exact .inl (kind_of_decodeFields h)
  · rw [if_neg hw] at h
    cases h
    exact .inr ⟨rfl, Bool.eq_false_iff.2 hw⟩

theorem exists_decodeTriple_error {data : List UInt8} {f : Fault}
    (h : decodeTriples b data = .error f) : ∃ x y z, decodeTriple b x y z = .error f := by
  induction data using decodeTriples.induct with
  | case1 x y z rest ih =>
    obtain h | ⟨i, -, h⟩ := bind_eq_error h
    · exact ⟨x, y, z, h⟩
    · obtain h | ⟨code, -, h⟩ := bind_eq_error h
      · exact ih h
      · cases h
  | case2 data hne =>
    rw [decodeTriples.eq_2 b data hne] at h
    cases h

theorem decodeProgram_error {data : List UInt8} {f : Fault} (h : decodeProgram b data = .error f) :
    f.kind = .decode ∨ f = .fractionalPlace ∧ b.layout.isWhole = false := by
  unfold decodeProgram at h
  split at h
  · obtain ⟨x, y, z, h⟩ := exists_decodeTriple_error h
    exact kind_of_decodeTriple h
  · cases h
    exact .inl rfl

theorem kind_of_decodeProgram {data : List UInt8} {f : Fault}
    (h : decodeProgram b data = .error f) : f.OfDecoding :=
  (decodeProgram_error h).imp_right And.left

theorem kind_of_decodeProgram_of_isWhole (hw : b.layout.isWhole = true) {data : List UInt8}
    {f : Fault} (h : decodeProgram b data = .error f) : f.kind = .decode := by
  obtain hk | ⟨-, hn⟩ := decodeProgram_error h
  · exact hk
  · rw [hw] at hn
    cases hn

/-- Only a layout with a place that selects no byte makes decoding fail with anything else. -/
theorem decodeProgram_fails_otherwise_iff {data : List UInt8} :
    (∃ f, decodeProgram b data = .error f ∧ f.kind ≠ .decode) ↔
      b.layout.isWhole = false ∧ data ≠ [] ∧ data.length % instructionSize = 0 := by
  constructor
  · rintro ⟨f, hd, hk⟩
    obtain hk' | ⟨rfl, hw⟩ := decodeProgram_error hd
    · exact absurd hk' hk
    · refine ⟨hw, ?_, ?_⟩
      · rintro rfl
        cases hd
      · by_cases hl : data.length % instructionSize = 0
        · exact hl
        · rw [decodeProgram, if_neg hl] at hd
          cases hd
  · rintro ⟨hw, hne, hl⟩
    refine ⟨.fractionalPlace, ?_, by decide⟩
    rw [decodeProgram, if_pos hl]
    match data, hne, hl with
    | [_], _, hl => cases hl
    | [_, _], _, hl => cases hl
    | x :: y :: z :: rest, _, _ =>
      have ht : decodeTriple b x y z = .error .fractionalPlace := by
        rw [decodeTriple, hw]
        rfl
      rw [decodeTriples, ht]
      rfl

end Yan85
