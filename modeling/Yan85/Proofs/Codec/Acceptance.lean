import Yan85.Proofs.Codec.RoundTrip

/-! # Which byte strings are programs

* `Role`, `Mnemonic.roles`: what the two operand bytes of each kind of instruction stand for.
* `IsCode b data`: whole groups of three bytes, each with a bound operation and with operands that
  their roles allow.
* `encodeProgram_of_decodeProgram`: what is decoded encodes to the bytes that it came from.
* `decodeProgram_canonical`: exactly the byte strings that are code are decoded, each to a program
  that no other byte string has.
-/

namespace Yan85
set_option autoImplicit false

/-! ## Roles of operand bytes -/

/-- What an operand byte of an instruction stands for. -/
inductive Role
  | register | optional | immediate
  deriving DecidableEq, Repr

/-- Whether a byte can stand in a role: a register needs its own byte, where one is optional the
byte zero stands for none. -/
def Role.Allows (b : Bindings) (x : UInt8) : Role → Prop
  | .register => ∃ r, b.registers.get r = x
  | .optional => x = 0 ∨ ∃ r, b.registers.get r = x
  | .immediate => True

/-- The roles of the two operands of a kind of instruction. -/
def Mnemonic.roles : Mnemonic → Role × Role
  | .imm => (.register, .immediate)
  | .stk => (.optional, .optional)
  | .add | .stm | .ldm | .cmp => (.register, .register)
  | .jmp | .sys => (.immediate, .register)

/-- The `k`-th three bytes have a bound operation, and operands that its roles allow, each at its
place in the layout. -/
def IsGroup (b : Bindings) (data : List UInt8) (k : Nat) : Prop :=
  ∃ (m : Mnemonic) (x y : UInt8),
    data[instructionSize * k + b.layout.place .op]? = some (b.opcodes.get m) ∧
    data[instructionSize * k + b.layout.place .first]? = some x ∧ m.roles.1.Allows b x ∧
    data[instructionSize * k + b.layout.place .second]? = some y ∧ m.roles.2.Allows b y

/-- Whole groups of three bytes, each with a bound operation and allowed operands. -/
def IsCode (b : Bindings) (data : List UInt8) : Prop :=
  data.length % instructionSize = 0 ∧ ∀ k, instructionSize * k < data.length → IsGroup b data k

variable {b : Bindings}

/-! ## Operands -/

theorem encodeOperand_of_decodeOperand {x : UInt8} {o : Operand}
    (h : decodeOperand b x = .ok o) : encodeOperand b o = x := by
  unfold decodeOperand at h
  by_cases hx : x = 0
  · rw [if_pos hx] at h
    cases h
    exact hx.symm
  · rw [if_neg hx] at h
    cases hr : b.boundRegister? (byteValue x) with
    | none =>
      rw [hr] at h
      cases h
    | some r =>
      rw [hr] at h
      cases h
      exact Bindings.boundRegister?_byteValue_iff.1 hr

theorem encodeOperand_of_decodeRegister {m : Mnemonic} {x : UInt8} {o : Operand}
    (h : decodeRegister b m x = .ok o) : encodeOperand b o = x := by
  obtain ⟨o', ho, h⟩ := bind_eq_ok h
  cases o' with
  | none => cases h
  | some r =>
    cases h
    exact encodeOperand_of_decodeOperand ho

theorem exists_decodeOperand_iff {x : UInt8} :
    (∃ o, decodeOperand b x = .ok o) ↔ Role.optional.Allows b x := by
  constructor
  · rintro ⟨o, ho⟩
    have hx := encodeOperand_of_decodeOperand ho
    cases o with
    | none => exact .inl hx.symm
    | some r => exact .inr ⟨r, hx⟩
  · rintro (rfl | ⟨r, rfl⟩)
    · exact ⟨none, rfl⟩
    · exact ⟨some r, decodeOperand_encodeOperand (some r)⟩

theorem exists_decodeRegister_iff {m : Mnemonic} {x : UInt8} :
    (∃ o, decodeRegister b m x = .ok o) ↔ Role.register.Allows b x := by
  constructor
  · rintro ⟨o, ho⟩
    obtain ⟨r, rfl⟩ := Option.isSome_iff_exists.1 (isSome_of_decodeRegister ho)
    exact ⟨r, encodeOperand_of_decodeRegister ho⟩
  · rintro ⟨r, rfl⟩
    exact ⟨some r, decodeRegister_encodeOperand m (some r)⟩

/-! ## Instructions -/

/-- What is decoded encodes to the operand bytes that it came from. -/
theorem encodeFields_of_decodeFields {m : Mnemonic} {x y : UInt8} {i : Instruction}
    (h : decodeFields b m x y = .ok i) : encodeFields b i = some (m, x, y) := by
  cases m with
  | imm =>
    obtain ⟨r, hr, h⟩ := bind_eq_ok h
    cases h
    rw [encodeFields, encodeOperand_of_decodeRegister hr]
  | stk =>
    obtain ⟨r, hr, h⟩ := bind_eq_ok h
    obtain ⟨q, hq, h⟩ := bind_eq_ok h
    cases h
    rw [encodeFields, encodeOperand_of_decodeOperand hr, encodeOperand_of_decodeOperand hq]
  | add | stm | ldm | cmp =>
    obtain ⟨r, hr, h⟩ := bind_eq_ok h
    obtain ⟨q, hq, h⟩ := bind_eq_ok h
    cases h
    rw [encodeFields, encodeOperand_of_decodeRegister hr, encodeOperand_of_decodeRegister hq]
  | jmp | sys =>
    obtain ⟨r, hr, h⟩ := bind_eq_ok h
    cases h
    rw [encodeFields, encodeOperand_of_decodeRegister hr]

theorem exists_both_iff {α : Type} {x y : Except Fault Operand} {build : Operand → Operand → α} :
    (∃ i, (do return build (← x) (← y)) = Except.ok i) ↔ (∃ r, x = .ok r) ∧ ∃ q, y = .ok q := by
  constructor
  · rintro ⟨i, h⟩
    obtain ⟨r, hr, h⟩ := bind_eq_ok h
    obtain ⟨q, hq, h⟩ := bind_eq_ok h
    exact ⟨⟨r, hr⟩, q, hq⟩
  · rintro ⟨⟨r, rfl⟩, q, rfl⟩
    exact ⟨build r q, rfl⟩

theorem exists_one_iff {α : Type} {x : Except Fault Operand} {build : Operand → α} :
    (∃ i, (do return build (← x)) = Except.ok i) ↔ ∃ r, x = .ok r := by
  constructor
  · rintro ⟨i, h⟩
    obtain ⟨r, hr, h⟩ := bind_eq_ok h
    exact ⟨r, hr⟩
  · rintro ⟨r, rfl⟩
    exact ⟨build r, rfl⟩

theorem exists_decodeFields_iff {m : Mnemonic} {x y : UInt8} :
    (∃ i, decodeFields b m x y = .ok i) ↔ m.roles.1.Allows b x ∧ m.roles.2.Allows b y := by
  cases m with
  | imm => exact (exists_one_iff.trans exists_decodeRegister_iff).trans (and_iff_left trivial).symm
  | stk => exact exists_both_iff.trans (and_congr exists_decodeOperand_iff exists_decodeOperand_iff)
  | add | stm | ldm | cmp =>
    exact exists_both_iff.trans (and_congr exists_decodeRegister_iff exists_decodeRegister_iff)
  | jmp | sys =>
    exact (exists_one_iff.trans exists_decodeRegister_iff).trans (and_iff_right trivial).symm

theorem decodeTriple_eq_ok_iff (hw : b.layout.isWhole = true) {x y z : UInt8} {i : Instruction} :
    decodeTriple b x y z = .ok i ↔
      ∃ m, b.opcodes.get m = fieldByte b x y z .op ∧
        decodeFields b m (fieldByte b x y z .first) (fieldByte b x y z .second) = .ok i := by
  constructor
  · intro h
    have ho := h
    unfold decodeTriple at ho
    simp only [if_pos hw] at ho
    cases hm : b.boundMnemonic? (byteValue (fieldByte b x y z .op)) with
    | none =>
      rw [hm] at ho
      cases ho
    | some m =>
      have hg := Bindings.boundMnemonic?_byteValue_iff.1 hm
      rw [decodeTriple_of_bound hw hg] at h
      exact ⟨m, hg, h⟩
  · rintro ⟨m, hm, h⟩
    rw [decodeTriple_of_bound hw hm, h]

theorem encodeInstruction_of_decodeTriple (hw : b.layout.isWhole = true) {x y z : UInt8}
    {i : Instruction} (h : decodeTriple b x y z = .ok i) :
    encodeInstruction b i = .ok [x, y, z] := by
  obtain ⟨m, hm, hd⟩ := (decodeTriple_eq_ok_iff hw).1 h
  refine (encodeInstruction_eq_ok_iff hw).2 ⟨m, _, _, encodeFields_of_decodeFields hd, ?_⟩
  rw [hm]
  refine (placeFields_eq_iff.2 fun f => ?_).symm
  cases f with
  | _ => rfl

/-! ## Byte strings -/

theorem isGroup_zero_iff (hw : b.layout.isWhole = true) {x y z : UInt8} {rest : List UInt8} :
    IsGroup b (x :: y :: z :: rest) 0 ↔ ∃ i, decodeTriple b x y z = .ok i := by
  unfold IsGroup
  simp only [Nat.mul_zero, Nat.zero_add, getElem?_fieldByte, Option.some.injEq]
  constructor
  · rintro ⟨m, u, v, hm, rfl, hu, rfl, hv⟩
    obtain ⟨i, hi⟩ := exists_decodeFields_iff.2 ⟨hu, hv⟩
    exact ⟨i, (decodeTriple_eq_ok_iff hw).2 ⟨m, hm.symm, hi⟩⟩
  · rintro ⟨i, hi⟩
    obtain ⟨m, hm, hd⟩ := (decodeTriple_eq_ok_iff hw).1 hi
    obtain ⟨hu, hv⟩ := exists_decodeFields_iff.1 ⟨i, hd⟩
    exact ⟨m, _, _, hm.symm, rfl, hu, rfl, hv⟩

theorem isGroup_succ_iff {x y z : UInt8} {rest : List UInt8} {k : Nat} :
    IsGroup b (x :: y :: z :: rest) (k + 1) ↔ IsGroup b rest k := by
  have h : ∀ n, (x :: y :: z :: rest)[instructionSize * (k + 1) + n]? =
      rest[instructionSize * k + n]? := by
    intro n
    have e : instructionSize * (k + 1) + n = instructionSize * k + n + 3 := by
      rw [instructionSize]
      omega
    rw [e]
    rfl
  unfold IsGroup
  simp only [h]

theorem isCode_cons_iff (hw : b.layout.isWhole = true) {x y z : UInt8} {rest : List UInt8} :
    IsCode b (x :: y :: z :: rest) ↔ (∃ i, decodeTriple b x y z = .ok i) ∧ IsCode b rest := by
  have hl : (x :: y :: z :: rest).length = rest.length + instructionSize := rfl
  unfold IsCode
  rw [hl, Nat.add_mod_right]
  constructor
  · rintro ⟨hm, hk⟩
    refine ⟨(isGroup_zero_iff hw).1 (hk 0 (by rw [instructionSize]; omega)), hm, fun k hlt => ?_⟩
    exact isGroup_succ_iff.1 (hk (k + 1) (by rw [Nat.mul_succ]; omega))
  · rintro ⟨hi, hm, hk⟩
    refine ⟨hm, fun k hlt => ?_⟩
    cases k with
    | zero => exact (isGroup_zero_iff hw).2 hi
    | succ k =>
      rw [Nat.mul_succ] at hlt
      exact isGroup_succ_iff.2 (hk k (by omega))

theorem eq_nil_of_no_group {data : List UInt8} (hl : data.length % instructionSize = 0)
    (hne : ∀ x y z rest, data ≠ x :: y :: z :: rest) : data = [] := by
  match data, hne with
  | [], _ => rfl
  | [_], _ => cases hl
  | [_, _], _ => cases hl
  | x :: y :: z :: rest, hne => exact absurd rfl (hne x y z rest)

theorem length_mod_of_cons {x y z : UInt8} {rest : List UInt8}
    (hl : (x :: y :: z :: rest).length % instructionSize = 0) :
    rest.length % instructionSize = 0 :=
  (Nat.add_mod_right rest.length instructionSize).symm.trans hl

theorem exists_decodeTriples_iff (hw : b.layout.isWhole = true) {data : List UInt8}
    (hl : data.length % instructionSize = 0) :
    (∃ p, decodeTriples b data = .ok p) ↔ IsCode b data := by
  induction data using decodeTriples.induct with
  | case1 x y z rest ih =>
    rw [isCode_cons_iff hw, ← ih (length_mod_of_cons hl)]
    constructor
    · rintro ⟨p, h⟩
      obtain ⟨i, hi, h⟩ := bind_eq_ok h
      obtain ⟨q, hq, -⟩ := bind_eq_ok h
      exact ⟨⟨i, hi⟩, q, hq⟩
    · rintro ⟨⟨i, hi⟩, q, hq⟩
      rw [decodeTriples, hi, hq]
      exact ⟨i :: q, rfl⟩
  | case2 data hne =>
    obtain rfl := eq_nil_of_no_group hl hne
    exact ⟨fun _ => ⟨rfl, fun k hk => absurd hk (Nat.not_lt_zero _)⟩, fun _ => ⟨[], rfl⟩⟩

theorem encodeProgram_of_decodeProgram (hw : b.layout.isWhole = true) {data : List UInt8}
    {p : List Instruction} (h : decodeProgram b data = .ok p) : encodeProgram b p = .ok data := by
  unfold decodeProgram at h
  split at h
  case isFalse => cases h
  case isTrue hl =>
    induction data using decodeTriples.induct generalizing p with
    | case1 x y z rest ih =>
      obtain ⟨i, hi, h⟩ := bind_eq_ok h
      obtain ⟨q, hq, h⟩ := bind_eq_ok h
      cases h
      have hp := ih (length_mod_of_cons hl) hq
      exact encodeProgram_cons (encodeInstruction_of_decodeTriple hw hi) hp
    | case2 data hne =>
      obtain rfl := eq_nil_of_no_group hl hne
      cases h
      rfl

theorem exists_decodeProgram_iff (hw : b.layout.isWhole = true) {data : List UInt8} :
    (∃ p, decodeProgram b data = .ok p) ↔ IsCode b data := by
  unfold decodeProgram
  by_cases hl : data.length % instructionSize = 0
  · rw [if_pos hl]
    exact exists_decodeTriples_iff hw hl
  · rw [if_neg hl]
    constructor
    · rintro ⟨p, h⟩
      cases h
    · rintro ⟨h, -⟩
      exact absurd h hl

/-- **Encoding undoes decoding, and exactly the code is decoded.** What a byte string decodes to
encodes to that byte string and to no other. The byte strings that are decoded are those with whole
groups of three bytes, each with a bound operation and allowed operands; all others are refused. -/
theorem decodeProgram_canonical (hw : b.layout.isWhole = true) (data : List UInt8) :
    (∀ p, decodeProgram b data = .ok p → encodeProgram b p = .ok data) ∧
      (∀ data' p, decodeProgram b data = .ok p → decodeProgram b data' = .ok p → data' = data) ∧
      ((∃ p, decodeProgram b data = .ok p) ↔ IsCode b data) ∧
      (¬ IsCode b data → ∃ f, decodeProgram b data = .error f ∧ f.kind = .decode) := by
  refine ⟨fun p => encodeProgram_of_decodeProgram hw, fun data' p h h' => ?_,
    exists_decodeProgram_iff hw, fun hn => ?_⟩
  · have he := encodeProgram_of_decodeProgram hw h
    have he' := encodeProgram_of_decodeProgram hw h'
    rw [he] at he'
    exact (Except.ok.inj he').symm
  · cases hd : decodeProgram b data with
    | ok p => exact absurd ((exists_decodeProgram_iff hw).1 ⟨p, hd⟩) hn
    | error f => exact ⟨f, rfl, kind_of_decodeProgram_of_isWhole hw hd⟩

/-- The byte zero is no register for an immediate; in a push it is the missing register to pop to. -/
theorem immediate_for_no_register :
    ¬ IsCode .standard [0x80, 0x00, 0x20] ∧ IsCode .standard [0x40, 0x00, 0x20] ∧
      ∃ f, decodeProgram .standard [0x80, 0x00, 0x20] = .error f ∧ f.kind = .decode := by
  obtain ⟨-, -, hi, hf⟩ :=
    decodeProgram_canonical (b := .standard) (by decide) [0x80, 0x00, 0x20]
  obtain ⟨-, -, hi', -⟩ :=
    decodeProgram_canonical (b := .standard) (by decide) [0x40, 0x00, 0x20]
  have hn : ¬ IsCode .standard [0x80, 0x00, 0x20] := by
    intro h
    obtain ⟨p, hp⟩ := hi.2 h
    cases hp
  exact ⟨hn, hi'.1 ⟨_, rfl⟩, hf hn⟩

end Yan85
