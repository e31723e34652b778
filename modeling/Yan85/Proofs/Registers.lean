import Yan85.Action
import Yan85.Proofs.Bindings.Exactness
import Yan85.RegisterFile

/-! # The register file is a map

* `Write`: a request to put an integer into the register of an operand. `Write.Possible` says which
  of them can be carried out. `attempt` carries one out or refuses it, and `inTurn` goes on with the
  next one in either case.
* `lastWritten ws r`: the integer of the last possible write to `r`, or zero.
* `Slots t b`: each register has a slot of its own, at the position of its bit.
* `attempt_cases`, `get_attempt`: what one write does. `answers_inTurn`, `get_inTurn`: what writes
  do one after the other.
* `registers_are_a_map`: after any writes to a fresh file, each register holds what was last written
  to it, whatever bits the registers have.
-/

namespace Yan85
set_option autoImplicit false

/-! ## Slots -/

namespace Bindings

variable {b : Bindings}

/-- The slots of the registers: each at the position of the bit that the table gives to its
register, no two alike, and all within as many cells as the highest of them needs. -/
structure Slots (t : Tables) (b : Bindings) : Prop where
  bit : ∀ r : Register, t.registers.find? (Enumerated.name r) = some (.int (2 ^ b.slot r))
  injective : Function.Injective b.slot
  inside : ∀ r, b.slot r < b.slotCount
  highest : ∃ r, b.slotCount = b.slot r + 1

theorem byteValue_register (b : Bindings) (r : Register) :
    byteValue (b.registers.get r) = 2 ^ b.slot r := (b.registers_single r).byteValue_eq

theorem exists_slotCount (b : Bindings) : ∃ r, b.slotCount = b.slot r + 1 := by
  have hmax : ((Enumerated.all : List Register).map b.slot).foldl max 0 ∈
      0 :: (Enumerated.all : List Register).map b.slot := List.max?_mem List.max?_cons'
  unfold slotCount
  obtain h | h := List.mem_cons.1 hmax
  · -- No slot is above 0, so that any register has the highest one.
    have hA := le_foldl_max ((Enumerated.all : List Register).map b.slot) 0 (b.slot Register.A)
      (.inr (List.mem_map_of_mem (Enumerated.mem_all Register.A)))
    exact ⟨.A, by omega⟩
  · obtain ⟨r, -, hr⟩ := List.mem_map.1 h
    exact ⟨r, by rw [hr]⟩

theorem slots_toTables (b : Bindings) : Slots b.toTables b where
  bit r := by
    change (b.registers.map fun _ => byteAsValue).toNamed.find? _ = _
    rw [Table.find?_toNamed, Table.get_map, byteAsValue, byteValue_register]
  injective _ _ h := b.slot_injective h
  inside := b.slot_lt_slotCount
  highest := b.exists_slotCount

end Bindings

namespace RegisterFile

variable {b : Bindings}

/-! ## Writes -/

/-- A request to put an integer into the register of an operand. -/
structure Write where
  target : Operand
  value : Int

/-- The write puts a byte into the register `r`. -/
def Write.Reaches (w : Write) (r : Register) : Prop :=
  w.target = some r ∧ 0 ≤ w.value ∧ w.value ≤ 0xFF

instance (w : Write) (r : Register) : Decidable (w.Reaches r) :=
  inferInstanceAs (Decidable (_ ∧ _))

/-- The write puts a byte into some register. -/
def Write.Possible (w : Write) : Prop := w.target ≠ none ∧ 0 ≤ w.value ∧ w.value ≤ 0xFF

instance (w : Write) : Decidable w.Possible := inferInstanceAs (Decidable (_ ∧ _))

/-- Carries out a write or refuses it. -/
def attempt (w : Write) : Action (RegisterFile b) Unit := fun rf =>
  match rf.write w.target w.value with
  | .ok rf' => (.ok (), rf')
  | .error f => (.error f, rf)

/-- The answers to writes one after the other, going on after a refused one, and the file that they
leave. -/
def inTurn : List Write → RegisterFile b → List (Except Fault Unit) × RegisterFile b
  | [], rf => ([], rf)
  | w :: ws, rf =>
    let (r, rf') := attempt w rf
    let (rs, rf'') := inTurn ws rf'
    (r :: rs, rf'')

/-- The last of the writes that puts a byte into the register `r`. -/
def lastWrite? (ws : List Write) (r : Register) : Option Write :=
  ws.reverse.find? fun w => w.Reaches r

/-- The integer last written to the register `r`, or zero. -/
def lastWritten (ws : List Write) (r : Register) : Int :=
  match lastWrite? ws r with
  | some w => w.value
  | none => 0

/-- The file holds these integers: in the cells at the slots of the registers, when it is read, and
when it is listed. -/
structure Holds (rf : RegisterFile b) (values : Register → Int) : Prop where
  cell : ∀ r, (rf.cells[b.slot r]?).map byteValue = some (values r)
  read : ∀ r, (rf.read (some r)).map byteValue = .ok (values r)
  listed : rf.toList.map (fun e => (Enumerated.name e.1, byteValue e.2)) =
    [("A", values .A), ("B", values .B), ("C", values .C), ("D", values .D), ("S", values .S),
      ("I", values .I), ("F", values .F)]

theorem holds_of_get {rf : RegisterFile b} {values : Register → Int}
    (h : ∀ r, byteValue (rf.get r) = values r) : Holds rf values where
  cell r := by
    rw [Vector.getElem?_eq_getElem (b.slot_lt_slotCount r), Option.map_some]
    exact congrArg some (h r)
  read r := congrArg Except.ok (h r)
  listed := by
    simp only [← h]
    rfl

/-! ## One write -/

section One

variable {w : Write} {r : Register}

theorem Write.possible_iff : w.Possible ↔ ∃ r, w.Reaches r := by
  constructor
  · rintro ⟨hn, hv⟩
    obtain ⟨r, hr⟩ := Option.ne_none_iff_exists'.1 hn
    exact ⟨r, hr, hv⟩
  · rintro ⟨r, hr, hv⟩
    exact ⟨by rw [hr]; exact Option.some_ne_none r, hv⟩

theorem attempt_of_reaches (h : w.Reaches r) (rf : RegisterFile b) :
    ∃ x, byteValue x = w.value ∧ attempt w rf = (.ok (), rf.set r x) := by
  obtain ⟨target, v⟩ := w
  obtain ⟨rfl, h0, h1⟩ := h
  have hx : byte? v = some (UInt8.ofNat v.toNat) := if_pos ⟨h0, h1⟩
  refine ⟨UInt8.ofNat v.toNat, (byte?_eq_some_iff.1 hx).symm, ?_⟩
  simp only [attempt, write, hx]

/-- A write that is refused leaves the file as it was. -/
theorem attempt_of_not_possible (h : ¬ w.Possible) (rf : RegisterFile b) :
    ∃ f, attempt w rf = (.error f, rf) ∧ f.kind = .invalidOperand := by
  obtain ⟨target, v⟩ := w
  cases target with
  | none => exact ⟨.noOperand, rfl, rfl⟩
  | some r =>
    have hx : byte? v = none := if_neg fun hv => h ⟨Option.some_ne_none r, hv⟩
    refine ⟨.notRegisterValue v, ?_, rfl⟩
    simp only [attempt, write, hx]

theorem attempt_cases (w : Write) (rf : RegisterFile b) :
    (∃ r x, w.Reaches r ∧ byteValue x = w.value ∧ attempt w rf = (.ok (), rf.set r x)) ∨
      ¬ w.Possible ∧ ∃ f, attempt w rf = (.error f, rf) ∧ f.kind = .invalidOperand := by
  by_cases h : w.Possible
  · obtain ⟨r, hr⟩ := Write.possible_iff.1 h
    obtain ⟨x, hx, he⟩ := attempt_of_reaches hr rf
    exact .inl ⟨r, x, hr, hx, he⟩
  · exact .inr ⟨h, attempt_of_not_possible h rf⟩

theorem answer_attempt (w : Write) (rf : RegisterFile b) :
    (attempt w rf).1.mapError Fault.kind =
      if w.Possible then .ok () else .error .invalidOperand := by
  obtain ⟨r, x, hr, -, he⟩ | ⟨hn, f, he, hf⟩ := attempt_cases w rf
  · rw [he, if_pos (Write.possible_iff.2 ⟨r, hr⟩)]
    rfl
  · rw [he, if_neg hn, ← hf]
    rfl

/-- A write changes the register that it reaches and no other one. -/
theorem get_attempt (w : Write) (rf : RegisterFile b) (r : Register) :
    byteValue ((attempt w rf).2.get r) =
      if w.Reaches r then w.value else byteValue (rf.get r) := by
  obtain ⟨q, x, hq, hx, he⟩ | ⟨hn, f, he, -⟩ := attempt_cases w rf
  · rw [he, get_set]
    by_cases hr : r = q
    · rw [if_pos hr, hr, if_pos hq, hx]
    · have hnot : ¬ w.Reaches r := fun h => hr (Option.some.inj (h.1.symm.trans hq.1))
      rw [if_neg hr, if_neg hnot]
  · have hnot : ¬ w.Reaches r := fun h => hn (Write.possible_iff.2 ⟨r, h⟩)
    rw [he, if_neg hnot]

end One

/-! ## Writes one after the other -/

theorem answers_inTurn (ws : List Write) (rf : RegisterFile b) :
    (inTurn ws rf).1.map (·.mapError Fault.kind) =
      ws.map fun w => if w.Possible then .ok () else .error .invalidOperand := by
  induction ws generalizing rf with
  | nil => rfl
  | cons w ws ih =>
    simp only [inTurn, List.map_cons]
    rw [ih, answer_attempt]

theorem lastWrite?_cons (w : Write) (ws : List Write) (r : Register) :
    lastWrite? (w :: ws) r = (lastWrite? ws r).or (if w.Reaches r then some w else none) := by
  unfold lastWrite?
  rw [List.reverse_cons, List.find?_append, List.find?_singleton]
  simp only [decide_eq_true_eq]

/-- A register holds what the last write that reaches it puts there, or what it held before. -/
theorem get_inTurn (ws : List Write) (rf : RegisterFile b) (r : Register) :
    byteValue ((inTurn ws rf).2.get r) =
      match lastWrite? ws r with
      | some w => w.value
      | none => byteValue (rf.get r) := by
  induction ws generalizing rf with
  | nil => rfl
  | cons w ws ih =>
    simp only [inTurn]
    rw [ih, lastWrite?_cons, get_attempt]
    cases lastWrite? ws r with
    | some w' => rfl
    | none =>
      by_cases h : w.Reaches r
      · simp only [if_pos h, Option.none_or]
      · simp only [if_neg h, Option.none_or]

/-- **The register file is a map.** Under every encoding each register has a slot of its own among
the cells, at the position of its bit. After any writes to a fresh file, each register holds the
integer that was last written to it, or zero, and the listing has the seven registers with these
integers: both do not depend on the encoding. A write of no byte or to no register is refused as an
invalid operand and changes nothing; every other one succeeds. -/
theorem registers_are_a_map {t : Tables} {b : Bindings} (h : t.validate = .ok b)
    (ws : List Write) :
    Bindings.Slots t b ∧
      Holds (inTurn ws (zero b)).2 (lastWritten ws) ∧
      (inTurn ws (zero b)).1.map (·.mapError Fault.kind) =
        ws.map (fun w => if w.Possible then .ok () else .error .invalidOperand) ∧
      ∀ w : Write, ¬ w.Possible →
        ∃ f, attempt w (inTurn ws (zero b)).2 = (.error f, (inTurn ws (zero b)).2) ∧
          f.kind = .invalidOperand := by
  obtain rfl := Tables.toTables_of_validate h
  refine ⟨b.slots_toTables, holds_of_get fun r => ?_, answers_inTurn ws _, fun w hw => ?_⟩
  · rw [get_inTurn, get_zero]
    rfl
  · exact attempt_of_not_possible hw _

/-- Writes to three registers, some of them impossible. -/
def mixedWrites : List Write :=
  [⟨some .A, 300⟩, ⟨none, 5⟩, ⟨some .F, 7⟩, ⟨some .A, 1⟩, ⟨some .F, -1⟩, ⟨some .A, 255⟩]

theorem mixedWrites_held :
    Bindings.standard.toTables.validate = .ok Bindings.standard ∧
      Bindings.Slots Bindings.standard.toTables Bindings.standard ∧
      Holds (inTurn mixedWrites (zero Bindings.standard)).2 (lastWritten mixedWrites) ∧
      lastWritten mixedWrites .A = 255 ∧ lastWritten mixedWrites .F = 7 ∧
      lastWritten mixedWrites .B = 0 ∧
      (inTurn mixedWrites (zero Bindings.standard)).1.map (·.mapError Fault.kind) =
        [.error .invalidOperand, .error .invalidOperand, .ok (), .ok (), .error .invalidOperand,
          .ok ()] ∧
      ∃ f, attempt ⟨none, 5⟩ (inTurn mixedWrites (zero Bindings.standard)).2 =
          (.error f, (inTurn mixedWrites (zero Bindings.standard)).2) ∧
        f.kind = .invalidOperand := by
  have h := Tables.validate_toTables Bindings.standard
  obtain ⟨hslots, hholds, hanswers, hrefused⟩ := registers_are_a_map h mixedWrites
  exact ⟨h, hslots, hholds, by decide, by decide, by decide, hanswers,
    hrefused ⟨none, 5⟩ (by decide)⟩

end RegisterFile

end Yan85
