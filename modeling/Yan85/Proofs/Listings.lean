import Mathlib.Data.List.Forall2
import Yan85.Proofs.Bindings.Flags
import Yan85.Proofs.Bindings.Lookups
import Yan85.Text.Hex

/-! # Listings are unambiguous

* `operandText_injective`, `conditionText_injective`, `syscallText_injective`: what is shown of an
  operand, a condition and a system call. Of a condition only the flags are shown that it selects.
* `syscallText_eq_name_iff`, `syscallText_eq_marked_iff`: a system call is shown by its name, or by
  its number if it has none.
* `Instruction.words`: the words of the text of an instruction. The text is made of these words with
  spaces between them, and no word has a space in it, so `words_eq_of_text_eq`.
* `Alike b i j`: the instructions are equal, up to bits of a condition that select no flag.
* `alike_of_words_eq`: the first word tells the kind of an instruction, the other ones its operands.
* `listing_determines`: two listings are equal exactly if their programs are alike.
-/

namespace Yan85
set_option autoImplicit false

open Yan85.Text

variable {b : Bindings}

/-! ## Operands -/

theorem operandText_injective {o o' : Operand} (h : operandText o = operandText o') : o = o' := by
  cases o with
  | none =>
    cases o' with
    | none => rfl
    | some r => cases r <;> simp [operandText, Enumerated.name, Register.letter] at h
  | some r =>
    cases o' with
    | none => cases r <;> simp [operandText, Enumerated.name, Register.letter] at h
    | some r' => rw [Enumerated.name_injective r r' h]

/-! ## Conditions -/

/-- The letter of a flag. -/
def Flag.letter : Flag → Char
  | .less => 'L'
  | .greater => 'G'
  | .equal => 'E'
  | .bothZero => 'Z'
  | .unequal => 'N'

theorem Flag.letter_injective {f g : Flag} (h : f.letter = g.letter) : f = g := by
  cases f <;> cases g <;> simp [letter] at h ⊢

theorem toList_join_names (fs : List Flag) :
    (String.join (fs.map Enumerated.name)).toList = fs.map Flag.letter := by
  have hname : ∀ f : Flag, (Enumerated.name f).toList = [f.letter] := by
    intro f
    cases f <;> rfl
  induction fs with
  | nil => rfl
  | cons f fs ih =>
    rw [List.map_cons, String.join_cons, String.toList_append, ih, hname]
    rfl

theorem conditionText_of_flags {mask : UInt8} (h : b.flagsOf (byteValue mask) ≠ []) :
    conditionText b mask = String.join ((b.flagsOf (byteValue mask)).map Enumerated.name) :=
  if_neg h

/-- The text of a condition tells which flags it selects, and nothing else. -/
theorem conditionText_injective {mask mask' : UInt8}
    (h : conditionText b mask = conditionText b mask') :
    b.flagsOf (byteValue mask) = b.flagsOf (byteValue mask') := by
  by_cases he : b.flagsOf (byteValue mask) = []
  · have hdash := Bindings.conditionText_eq_dash_iff.2 he
    rw [h] at hdash
    rw [he, Bindings.conditionText_eq_dash_iff.1 hdash]
  · have he' : b.flagsOf (byteValue mask') ≠ [] := by
      intro hn
      rw [← Bindings.conditionText_eq_dash_iff, ← h, Bindings.conditionText_eq_dash_iff] at hn
      exact he hn
    rw [conditionText_of_flags he, conditionText_of_flags he'] at h
    have hl := congrArg String.toList h
    rw [toList_join_names, toList_join_names] at hl
    exact List.map_injective_iff.2 (fun _ _ => Flag.letter_injective) hl

theorem conditionText_congr {mask mask' : UInt8}
    (h : b.flagsOf (byteValue mask) = b.flagsOf (byteValue mask')) :
    conditionText b mask = conditionText b mask' := by
  unfold conditionText
  rw [h]

/-! ## System calls -/

theorem syscallText_of_some {number : UInt8} {s : Syscall}
    (h : b.boundSyscall? (byteValue number) = some s) :
    syscallText b number = Enumerated.name s := by
  unfold syscallText
  rw [h]

theorem syscallText_of_none {number : UInt8} (h : b.boundSyscall? (byteValue number) = none) :
    syscallText b number = Hex.marked number := by
  unfold syscallText
  rw [h]
  exact Hex.padded_byteValue number

/-- No system call is called by a number. -/
theorem name_ne_marked (s : Syscall) (x : UInt8) : Enumerated.name s ≠ Hex.marked x := by
  intro h
  have hc := congrArg String.toList h
  cases s <;> simp [Enumerated.name, Hex.marked] at hc

theorem syscallText_eq_name_iff {number : UInt8} {s : Syscall} :
    syscallText b number = Enumerated.name s ↔ b.boundSyscall? (byteValue number) = some s := by
  cases h : b.boundSyscall? (byteValue number) with
  | some q =>
    rw [syscallText_of_some h, Option.some.injEq]
    exact ⟨Enumerated.name_injective q s, congrArg Enumerated.name⟩
  | none =>
    rw [syscallText_of_none h]
    exact ⟨fun hn => absurd hn.symm (name_ne_marked s number), nofun⟩

/-- The number that is shown in place of a name is that of the call. -/
theorem syscallText_eq_marked_iff {number x : UInt8} :
    syscallText b number = Hex.marked x ↔
      x = number ∧ b.boundSyscall? (byteValue number) = none := by
  cases h : b.boundSyscall? (byteValue number) with
  | some s =>
    rw [syscallText_of_some h]
    exact ⟨fun hn => absurd hn (name_ne_marked s x), nofun⟩
  | none =>
    rw [syscallText_of_none h]
    constructor
    · intro hn
      exact ⟨Hex.marked_injective hn.symm, rfl⟩
    · rintro ⟨rfl, -⟩
      rfl

theorem syscallText_injective {x y : UInt8} (h : syscallText b x = syscallText b y) : x = y := by
  cases hx : b.boundSyscall? (byteValue x) with
  | some s =>
    have hname : syscallText b y = Enumerated.name s := h.symm.trans (syscallText_of_some hx)
    have hy := syscallText_eq_name_iff.1 hname
    rw [Bindings.boundSyscall?_byteValue_iff] at hx hy
    exact hx.symm.trans hy
  | none =>
    have hmarked : syscallText b y = Hex.marked x := h.symm.trans (syscallText_of_none hx)
    exact (syscallText_eq_marked_iff.1 hmarked).1

/-! ## Words without spaces -/

/-- The text has no space in it. -/
def Unbroken (t : String) : Prop := ' ' ∉ t.toList

theorem unbroken_operandText (o : Operand) : Unbroken (operandText o) := by
  cases o with
  | none => simp [Unbroken, operandText]
  | some r => cases r <;> simp [Unbroken, operandText, Enumerated.name, Register.letter]

theorem unbroken_starred (o : Operand) : Unbroken ("*" ++ operandText o) := by
  have ho := unbroken_operandText o
  unfold Unbroken at ho ⊢
  rw [String.toList_append, List.mem_append, not_or]
  exact ⟨by simp, ho⟩

theorem unbroken_conditionText (b : Bindings) (mask : UInt8) : Unbroken (conditionText b mask) := by
  by_cases he : b.flagsOf (byteValue mask) = []
  · rw [Bindings.conditionText_eq_dash_iff.2 he]
    simp [Unbroken]
  · rw [conditionText_of_flags he, Unbroken, toList_join_names, List.mem_map]
    rintro ⟨f, -, hf⟩
    cases f <;> simp [Flag.letter] at hf

theorem unbroken_marked (x : UInt8) : Unbroken (Hex.marked x) := by
  have hd : ∀ d : Nat, ' ' ≠ Nat.digitChar d := fun d => (Nat.digitChar_ne ' ' (by decide)).symm
  simp [Unbroken, Hex.marked, Hex.pair, hd]

theorem unbroken_syscallText (b : Bindings) (number : UInt8) :
    Unbroken (syscallText b number) := by
  cases h : b.boundSyscall? (byteValue number) with
  | some s =>
    rw [syscallText_of_some h]
    cases s <;> simp [Unbroken, Enumerated.name]
  | none =>
    rw [syscallText_of_none h]
    exact unbroken_marked number

namespace Instruction

/-- The first word of the text of an instruction. -/
def head (i : Instruction) : String := i.mnemonic?.elim "Instruction()" Enumerated.name

/-- The words of the text of an instruction behind the first one. -/
def tail (b : Bindings) : Instruction → List String
  | imm dst value => [operandText dst, "=", Hex.padded (byteValue value)]
  | add dst src => [operandText dst, operandText src]
  | cmp left right => [operandText left, operandText right]
  | stk popTo pushFrom => [operandText popTo, operandText pushFrom]
  | stm address value => ["*" ++ operandText address, "=", operandText value]
  | ldm dst address => [operandText dst, "=", "*" ++ operandText address]
  | jmp condition target => [conditionText b condition, operandText target]
  | sys number result => [syscallText b number, operandText result]
  | bare => []

/-- The words of the text of an instruction. -/
def words (b : Bindings) (i : Instruction) : List String := i.head :: i.tail b

theorem toList_text (b : Bindings) (i : Instruction) :
    (i.text b).toList = [' '].intercalate ((i.words b).map String.toList) := by
  cases i <;> simp [text, words, head, tail, mnemonic?, Enumerated.name, List.intercalate]

theorem unbroken_head (i : Instruction) : Unbroken i.head := by
  cases i <;> simp [Unbroken, head, mnemonic?, Enumerated.name]

theorem unbroken_of_mem_tail {i : Instruction} {w : String} (h : w ∈ i.tail b) : Unbroken w := by
  have heq : Unbroken "=" := by simp [Unbroken]
  have hhex : ∀ x : UInt8, Unbroken (Hex.padded (byteValue x)) := by
    intro x
    rw [Hex.padded_byteValue]
    exact unbroken_marked x
  revert w
  cases i <;> simp [tail, heq, hhex, unbroken_operandText, unbroken_starred, unbroken_conditionText,
    unbroken_syscallText]

/-- Splitting the text at the spaces gives the words back. -/
theorem splitOn_text (b : Bindings) (i : Instruction) :
    (i.text b).toList.splitOn ' ' = (i.words b).map String.toList := by
  rw [toList_text]
  refine List.splitOn_intercalate ' ' (fun l hl => ?_) (List.cons_ne_nil _ _)
  obtain ⟨w, hw, rfl⟩ := List.mem_map.1 hl
  obtain rfl | hw := List.mem_cons.1 hw
  · exact unbroken_head i
  · exact unbroken_of_mem_tail hw

theorem words_eq_of_text_eq {i j : Instruction} (h : i.text b = j.text b) :
    i.words b = j.words b := by
  have hs := splitOn_text b i
  rw [h, splitOn_text b j] at hs
  exact (List.map_injective_iff.2 (fun _ _ => String.toList_inj.1) hs).symm

theorem mnemonic?_eq_of_head_eq {i j : Instruction} (h : i.head = j.head) :
    i.mnemonic? = j.mnemonic? := by
  have hname : ∀ k : Mnemonic, Enumerated.name k ≠ "Instruction()" := by
    intro k
    cases k <;> simp [Enumerated.name]
  unfold head at h
  cases hi : i.mnemonic? with
  | none =>
    cases hj : j.mnemonic? with
    | none => rfl
    | some k' =>
      rw [hi, hj] at h
      exact absurd h.symm (hname k')
  | some k =>
    cases hj : j.mnemonic? with
    | none =>
      rw [hi, hj] at h
      exact absurd h (hname k)
    | some k' =>
      rw [hi, hj] at h
      rw [Enumerated.name_injective k k' h]

/-! ## Instructions and programs -/

/-- The instructions are equal, or they are jumps to the same target under conditions that select
the same flags. -/
inductive Alike (b : Bindings) : Instruction → Instruction → Prop
  | refl (i : Instruction) : Alike b i i
  | jmp {mask mask' : UInt8} (target : Operand)
      (h : b.flagsOf (byteValue mask) = b.flagsOf (byteValue mask')) :
      Alike b (.jmp mask target) (.jmp mask' target)

theorem alike_of_tail_eq {i j : Instruction} (hk : i.mnemonic? = j.mnemonic?)
    (h : i.tail b = j.tail b) : Alike b i j := by
  have hstar : ∀ {o o' : Operand}, "*" ++ operandText o = "*" ++ operandText o' → o = o' :=
    fun ho => operandText_injective ((String.append_right_inj "*").1 ho)
  -- Instructions of different kinds are out, which leaves nine pairs.
  cases i <;> cases j <;> try cases hk
  case imm.imm =>
    simp only [tail, List.cons.injEq, and_true, true_and] at h
    rw [operandText_injective h.1, Hex.padded_byteValue_injective h.2]
    exact .refl _
  case add.add | stk.stk | cmp.cmp =>
    simp only [tail, List.cons.injEq, and_true] at h
    rw [operandText_injective h.1, operandText_injective h.2]
    exact .refl _
  case stm.stm =>
    simp only [tail, List.cons.injEq, and_true, true_and] at h
    rw [hstar h.1, operandText_injective h.2]
    exact .refl _
  case ldm.ldm =>
    simp only [tail, List.cons.injEq, and_true, true_and] at h
    rw [operandText_injective h.1, hstar h.2]
    exact .refl _
  case jmp.jmp =>
    simp only [tail, List.cons.injEq, and_true] at h
    rw [operandText_injective h.2]
    exact .jmp _ (conditionText_injective h.1)
  case sys.sys =>
    simp only [tail, List.cons.injEq, and_true] at h
    rw [syscallText_injective h.1, operandText_injective h.2]
    exact .refl _
  case bare.bare => exact .refl _

theorem text_eq_iff_alike {i j : Instruction} : i.text b = j.text b ↔ Alike b i j := by
  constructor
  · intro h
    obtain ⟨hhead, htail⟩ := List.cons.inj (words_eq_of_text_eq h)
    exact alike_of_tail_eq (mnemonic?_eq_of_head_eq hhead) htail
  · intro h
    cases h with
    | refl => rfl
    | jmp target h => simp only [text, conditionText_congr h]

end Instruction

theorem listing_eq_iff {p q : List Instruction} :
    listing b p = listing b q ↔ p.map (Instruction.text b) = q.map (Instruction.text b) := by
  have hsnd : ∀ p : List Instruction, (listing b p).map Prod.snd = p.map (Instruction.text b) := by
    intro p
    exact List.ext_getElem? fun n => by simp [listing, Function.comp_def]
  have hidx : ∀ p : List Instruction,
      listing b p = (p.map (Instruction.text b)).mapIdx fun n t => (n, t) := by
    intro p
    exact List.ext_getElem? fun n => by simp [listing, Function.comp_def]
  constructor
  · intro h
    rw [← hsnd p, h, hsnd q]
  · intro h
    rw [hidx p, h, ← hidx q]

/-- **A listing determines its program, up to what conditions do not select.** Two instructions have
the same text exactly if they are equal or jumps to the same target whose conditions select the same
flags. Two programs have the same listing exactly if they are so from the first instruction to the
last. This holds for every encoding, with any operands missing. -/
theorem listing_determines (b : Bindings) :
    (∀ i j : Instruction, i.text b = j.text b ↔
      i = j ∨ ∃ mask mask' target, i = .jmp mask target ∧ j = .jmp mask' target ∧
        b.flagsOf (byteValue mask) = b.flagsOf (byteValue mask')) ∧
    ∀ p q, listing b p = listing b q ↔ List.Forall₂ (Instruction.Alike b) p q := by
  refine ⟨fun i j => ?_, fun p q => ?_⟩
  · rw [Instruction.text_eq_iff_alike]
    constructor
    · rintro (_ | ⟨target, h⟩)
      · exact .inl rfl
      · exact .inr ⟨_, _, target, rfl, rfl, h⟩
    · rintro (rfl | ⟨mask, mask', target, rfl, rfl, h⟩)
      · exact .refl i
      · exact .jmp target h
  · rw [listing_eq_iff, ← List.forall₂_eq_eq_eq, List.forall₂_map_left_iff,
      List.forall₂_map_right_iff]
    simp only [Instruction.text_eq_iff_alike]

/-- Of two conditions that select the same flags, the listing does not tell which one it is. -/
example : (Instruction.jmp 0x20 (some .A)).text .standard =
    (Instruction.jmp 0 (some .A)).text .standard := by
  decide

end Yan85
