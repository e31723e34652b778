import Yan85.Bindings.Standard
import Yan85.Proofs.Bindings.Lookups
import Yan85.Proofs.Codec.Decoding

/-! # Reading back what has been written

* `placeFields_eq_iff`: three bytes are the fields at their places.
* `Instruction.verified`: the instruction itself, or the fault for a register that it lacks.
* `decodeTriples_of_encodeProgram`: the bytes of a program decode to its verified instructions.
* `decodeProgram_encodeProgram`: every program can be written; it is read back if it is proper, and
  refused otherwise.
-/

namespace Yan85
set_option autoImplicit false

variable {b : Bindings}

/-! ## Three bytes and their fields -/

theorem getElem?_fieldByte (b : Bindings) (x y z : UInt8) (rest : List UInt8) (f : Field) :
    (x :: y :: z :: rest)[(b.layout.place f).val]? = some (fieldByte b x y z f) := by
  unfold fieldByte
  generalize b.layout.place f = k
  match k with
  | 0 => rfl
  | 1 => rfl
  | 2 => rfl

/-- The byte of a field, of the bytes of all three. -/
def Field.pick (op x y : UInt8) : Field → UInt8
  | .op => op
  | .first => x
  | .second => y

theorem getElem?_placeFields (b : Bindings) (op x y : UInt8) (f : Field) :
    (placeFields b op x y)[(b.layout.place f).val]? = some (f.pick op x y) := by
  have hne : ∀ f q : Field, f ≠ q → (b.layout.place f).val ≠ (b.layout.place q).val :=
    fun f q h e => h (b.layout.place_injective (Fin.ext e))
  have h1 := hne .first .op (by decide)
  have h2 := hne .second .op (by decide)
  have h3 := hne .second .first (by decide)
  cases f with
  | op => simp [placeFields, instructionSize, Field.pick, h1, h2]
  | first => simp [placeFields, instructionSize, Field.pick, h3]
  | second => simp [placeFields, instructionSize, Field.pick]

theorem length_placeFields (b : Bindings) (op x y : UInt8) :
    (placeFields b op x y).length = instructionSize := by
  simp [placeFields]

theorem placeFields_eq_iff {op u v x y z : UInt8} :
    placeFields b op u v = [x, y, z] ↔ ∀ f : Field, fieldByte b x y z f = f.pick op u v := by
  constructor
  · intro h f
    have hp := getElem?_placeFields b op u v f
    rw [h, getElem?_fieldByte] at hp
    exact Option.some.inj hp
  · intro h
    apply List.ext_getElem?
    intro k
    by_cases hk : k < 3
    · obtain ⟨f, hf⟩ := b.layout.exists_place ⟨k, hk⟩
      have hv : (b.layout.place f).val = k := congrArg Fin.val hf
      rw [← hv, getElem?_placeFields, getElem?_fieldByte, h]
    · have hl := length_placeFields b op u v
      rw [List.getElem?_eq_none (by rw [hl, instructionSize]; omega),
        List.getElem?_eq_none (by simpa using Nat.le_of_not_lt hk)]

/-! ## Operands -/

theorem decodeOperand_encodeOperand (o : Operand) :
    decodeOperand b (encodeOperand b o) = .ok o := by
  cases o with
  | none => rfl
  | some r =>
    have hr : b.boundRegister? (byteValue (b.registers.get r)) = some r :=
      Bindings.boundRegister?_byteValue_iff.2 rfl
    unfold decodeOperand encodeOperand
    simp only [if_neg (b.register_ne_zero r), hr]

theorem decodeRegister_encodeOperand (m : Mnemonic) (o : Operand) :
    decodeRegister b m (encodeOperand b o) =
      if o.isSome then .ok o else .error (.missingOperand m) := by
  unfold decodeRegister
  rw [decodeOperand_encodeOperand]
  cases o with
  | none => rfl
  | some r => rfl

/-! ## Instructions -/

/-- The instruction itself, or the fault for a register that it lacks. -/
def Instruction.verified (i : Instruction) : Except Fault Instruction :=
  if i.IsProper then .ok i
  else
    match i.mnemonic? with
    | some m => .error (.missingOperand m)
    | none => .error .notEncodable

theorem verified_of_proper {i : Instruction} (h : i.IsProper) : i.verified = .ok i := if_pos h

theorem verified_of_improper {i : Instruction} (h : ¬ i.IsProper) :
    ∃ f, i.verified = .error f ∧ f.kind = .decode := by
  unfold Instruction.verified
  rw [if_neg h]
  cases i.mnemonic? with
  | none => exact ⟨_, rfl, rfl⟩
  | some m => exact ⟨_, rfl, rfl⟩

/-- The operand bytes of an instruction decode to the instruction, if it lacks no register. -/
theorem decodeFields_encodeFields {i : Instruction} {m : Mnemonic} {x y : UInt8}
    (h : encodeFields b i = some (m, x, y)) : decodeFields b m x y = i.verified := by
  cases i with
  | imm dst value =>
    cases h
    simp only [decodeFields, decodeRegister_encodeOperand]
    cases dst <;> rfl
  | add dst src | stm dst src | ldm dst src | cmp dst src =>
    cases h
    simp only [decodeFields, decodeRegister_encodeOperand]
    cases dst <;> cases src <;> rfl
  | stk popTo pushFrom =>
    cases h
    simp only [decodeFields, decodeOperand_encodeOperand]
    rfl
  | jmp condition target =>
    cases h
    simp only [decodeFields, decodeRegister_encodeOperand]
    cases target <;> rfl
  | sys number result =>
    cases h
    simp only [decodeFields, decodeRegister_encodeOperand]
    cases result <;> rfl
  | bare => cases h

theorem encodeInstruction_eq_ok_iff (hw : b.layout.isWhole = true) {i : Instruction}
    {raw : List UInt8} :
    encodeInstruction b i = .ok raw ↔
      ∃ m x y, encodeFields b i = some (m, x, y) ∧ raw = placeFields b (b.opcodes.get m) x y := by
  unfold encodeInstruction
  cases he : encodeFields b i with
  | none => simp
  | some t =>
    obtain ⟨m, x, y⟩ := t
    simp only [if_pos hw, Except.ok.injEq, Option.some.injEq, Prod.mk.injEq]
    constructor
    · rintro rfl
      exact ⟨m, x, y, ⟨rfl, rfl, rfl⟩, rfl⟩
    · rintro ⟨m', x', y', ⟨rfl, rfl, rfl⟩, rfl⟩
      rfl

theorem decodeTriple_of_bound (hw : b.layout.isWhole = true) {m : Mnemonic} {x y z : UInt8}
    (hm : b.opcodes.get m = fieldByte b x y z .op) :
    decodeTriple b x y z =
      decodeFields b m (fieldByte b x y z .first) (fieldByte b x y z .second) := by
  unfold decodeTriple
  simp only [if_pos hw, Bindings.boundMnemonic?_byteValue_iff.2 hm]

/-- The bytes of an instruction decode to the instruction, if it lacks no register. -/
theorem decodeTriple_of_encodeInstruction (hw : b.layout.isWhole = true) {i : Instruction}
    {x y z : UInt8} (h : encodeInstruction b i = .ok [x, y, z]) :
    decodeTriple b x y z = i.verified := by
  obtain ⟨m, u, v, he, hp⟩ := (encodeInstruction_eq_ok_iff hw).1 h
  have hf := placeFields_eq_iff.1 hp.symm
  have h1 : fieldByte b x y z .first = u := hf .first
  have h2 : fieldByte b x y z .second = v := hf .second
  rw [decodeTriple_of_bound hw (hf .op).symm, h1, h2]
  exact decodeFields_encodeFields he

theorem exists_encodeInstruction (hw : b.layout.isWhole = true) {i : Instruction}
    (hk : i.HasKind) : ∃ x y z, encodeInstruction b i = .ok [x, y, z] := by
  have he : ∃ m u v, encodeFields b i = some (m, u, v) := by
    cases i with
    | bare => exact absurd rfl hk
    | _ => exact ⟨_, _, _, rfl⟩
  obtain ⟨m, u, v, he⟩ := he
  obtain ⟨x, y, z, hp⟩ := List.length_eq_three.1 (length_placeFields b (b.opcodes.get m) u v)
  exact ⟨x, y, z, (encodeInstruction_eq_ok_iff hw).2 ⟨m, u, v, he, hp.symm⟩⟩

/-! ## Programs -/

theorem encodeProgram_cons {i : Instruction} {raw rest : List UInt8} {p : List Instruction}
    (hi : encodeInstruction b i = .ok raw) (hp : encodeProgram b p = .ok rest) :
    encodeProgram b (i :: p) = .ok (raw ++ rest) := by
  obtain ⟨raws, hr, hd⟩ := bind_eq_ok hp
  cases hd
  unfold encodeProgram
  rw [List.mapM_cons, hi, hr]
  rfl

/-- A program can be written, three bytes for each instruction, and its bytes decode to its verified
instructions. -/
theorem decodeTriples_of_encodeProgram (hw : b.layout.isWhole = true) {p : List Instruction}
    (hk : ∀ i ∈ p, i.HasKind) :
    ∃ data, encodeProgram b p = .ok data ∧ data.length = instructionSize * p.length ∧
      decodeTriples b data = p.mapM Instruction.verified := by
  induction p with
  | nil => exact ⟨[], rfl, rfl, rfl⟩
  | cons i p ih =>
    obtain ⟨x, y, z, hi⟩ := exists_encodeInstruction hw (hk i List.mem_cons_self)
    obtain ⟨rest, hp, hl, hd⟩ := ih fun j hj => hk j (List.mem_cons_of_mem i hj)
    refine ⟨_, encodeProgram_cons hi hp, ?_, ?_⟩
    · simp only [List.length_append, List.length_cons, List.length_nil, hl, instructionSize]
      omega
    · change decodeTriples b (x :: y :: z :: rest) = _
      rw [decodeTriples, decodeTriple_of_encodeInstruction hw hi, hd, List.mapM_cons]

theorem mapM_verified_of_proper {p : List Instruction} (h : ∀ i ∈ p, i.IsProper) :
    p.mapM Instruction.verified = .ok p := by
  induction p with
  | nil => rfl
  | cons i p ih =>
    rw [List.mapM_cons, verified_of_proper (h i List.mem_cons_self),
      ih fun j hj => h j (List.mem_cons_of_mem i hj)]
    rfl

theorem mapM_verified_of_improper {p : List Instruction} (h : ∃ i ∈ p, ¬ i.IsProper) :
    ∃ f, p.mapM Instruction.verified = .error f ∧ f.kind = .decode := by
  induction p with
  | nil =>
    obtain ⟨i, hi, -⟩ := h
    cases hi
  | cons i p ih =>
    rw [List.mapM_cons]
    by_cases hp : i.IsProper
    · obtain ⟨j, hj, hn⟩ := h
      obtain rfl | hj := List.mem_cons.1 hj
      · exact absurd hp hn
      · obtain ⟨f, hf, hk⟩ := ih ⟨j, hj, hn⟩
        rw [verified_of_proper hp, hf]
        exact ⟨f, rfl, hk⟩
    · obtain ⟨f, hf, hk⟩ := verified_of_improper hp
      rw [hf]
      exact ⟨f, rfl, hk⟩

/-- **Decoding undoes encoding.** Every program of the eight kinds can be written, with any registers
missing. Its bytes are read back as the same program if it has all registers that it needs, and are
refused otherwise. -/
theorem decodeProgram_encodeProgram (hw : b.layout.isWhole = true) {p : List Instruction}
    (hk : ∀ i ∈ p, i.HasKind) :
    ∃ data, encodeProgram b p = .ok data ∧ data.length = instructionSize * p.length ∧
      ((∀ i ∈ p, i.IsProper) → decodeProgram b data = .ok p) ∧
      ((∃ i ∈ p, ¬ i.IsProper) → ∃ f, decodeProgram b data = .error f ∧ f.kind = .decode) ∧
      ∀ q, decodeProgram b data = .ok q → q = p := by
  obtain ⟨data, he, hl, hd⟩ := decodeTriples_of_encodeProgram hw hk
  have hd : decodeProgram b data = p.mapM Instruction.verified := by
    unfold decodeProgram
    rw [hl, Nat.mul_mod_right, if_pos rfl, hd]
  refine ⟨data, he, hl, fun hp => ?_, fun hn => ?_, fun q hq => ?_⟩
  · rw [hd, mapM_verified_of_proper hp]
  · rw [hd]
    exact mapM_verified_of_improper hn
  · rw [hd] at hq
    by_cases hp : ∀ i ∈ p, i.IsProper
    · rw [mapM_verified_of_proper hp] at hq
      exact (Except.ok.inj hq).symm
    · simp only [not_forall] at hp
      obtain ⟨i, hi, hn⟩ := hp
      obtain ⟨f, hf, -⟩ := mapM_verified_of_improper ⟨i, hi, hn⟩
      rw [hf] at hq
      cases hq

/-- A push alone is a whole instruction, and a jump to nowhere is not. -/
theorem jumping_nowhere :
    (∃ data, encodeProgram .standard [.stk none (some .A), .jmp 4 none] = .ok data ∧
      ∃ f, decodeProgram .standard data = .error f ∧ f.kind = .decode) ∧
    ∃ data, encodeProgram .standard [.stk none (some .A)] = .ok data ∧
      decodeProgram .standard data = .ok [.stk none (some .A)] := by
  constructor
  · obtain ⟨data, he, -, -, hf, -⟩ := decodeProgram_encodeProgram (b := .standard)
      (p := [.stk none (some .A), .jmp 4 none]) (by decide) (by decide)
    exact ⟨data, he, hf ⟨.jmp 4 none, by decide, by decide⟩⟩
  · obtain ⟨data, he, -, hd, -⟩ := decodeProgram_encodeProgram (b := .standard)
      (p := [.stk none (some .A)]) (by decide) (by decide)
    exact ⟨data, he, hd (by decide)⟩

end Yan85
