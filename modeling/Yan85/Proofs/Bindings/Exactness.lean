import Mathlib.Algebra.Ring.Int.Defs
import Mathlib.Data.List.Perm.Subperm
import Yan85.Proofs.Bindings.Lookups
import Yan85.Proofs.Bindings.Tables

/-! # The tables that make an encoding, and the look-ups in it

* `Valid t`: the names and values that the five tables may have, told without any check.
* `eq_of_same_int`, `arePlaces_iff`: a value is equal to one whole number at most, and so three
  different places can be put into the order 0, 1, 2.
* `valid_iff`: valid tables are those that every check accepts.
* `firstWith?_int_iff`, `registerFor_eq_some_iff`, `mnemonicFor_eq_ok_iff`: integers are read back
  to the names whose entries they are.
* `validated_exactly`: tables make an encoding exactly if they are valid, and the look-ups in it are
  the tables read backwards.
-/

namespace Yan85
set_option autoImplicit false

/-! ## Powers of two and numbers -/

theorem SingleBit.byteValue_eq {x : UInt8} (h : SingleBit x) : byteValue x = 2 ^ x.toNat.log2 := by
  have hx := congrArg Int.ofNat h.toNat_eq
  rw [byteValue, hx]
  exact Int.natCast_pow 2 _

namespace Number

variable {x y : Number} {i j : Int}

theorem scaled?_eq_of_compare? (h : x.compare? y = some .eq) : x.scaled? = y.scaled? := by
  have hscaled : ∀ k l : Int, some (compare k l) = some .eq → some k = some l := fun k l hkl =>
    congrArg some (Int.compare_eq_eq.1 (Option.some.inj hkl))
  cases x with
  | whole i =>
    cases y with
    | whole j =>
      obtain rfl := Option.some.inj (hscaled i j h)
      rfl
    | real y =>
      cases y with
      | finite => exact hscaled _ _ h
      | infinite s => cases s <;> cases h
      | nan => cases h
  | real x =>
    cases x with
    | finite =>
      cases y with
      | whole => exact hscaled _ _ h
      | real y =>
        cases y with
        | finite => exact hscaled _ _ h
        | infinite s => cases s <;> cases h
        | nan => cases h
    | infinite s =>
      cases y with
      | whole => cases s <;> cases h
      | real y =>
        cases y with
        | finite => cases s <;> cases h
        | infinite => rfl
        | nan => cases h
    | nan => cases h

theorem scaled?_whole_injective (h : (whole i).scaled? = (whole j).scaled?) : i = j := by
  have hmul : ∀ n : Nat, i * Int.ofNat (Nat.pow 2 n) = j * Int.ofNat (Nat.pow 2 n) → i = j := by
    intro n hij
    have hunit : Int.ofNat (Nat.pow 2 n) ≠ 0 := fun h0 =>
      Nat.ne_of_gt (Nat.two_pow_pos n) (Int.ofNat.inj h0)
    exact Int.eq_of_mul_eq_mul_right hunit hij
  injection h with h
  exact hmul _ h

end Number

namespace Tables

/-! ## Valid tables -/

/-- The names are exactly these, and the values are whole numbers from 0 to 255. -/
structure BindsBytes (names : List String) (t : Ordered String Value) : Prop where
  names : HasNames t names
  bytes : ∀ v ∈ t.values, ∃ k : Int, v = .int k ∧ 0 ≤ k ∧ k ≤ 0xFF

/-- The names and values that the five tables may have. Flags alone may share a byte; a register has
a byte with one bit; a place may be any value that is equal to 0, 1 or 2. -/
structure Valid (t : Tables) : Prop where
  registers : BindsBytes ["A", "B", "C", "D", "S", "I", "F"] t.registers
  registers_distinct : t.registers.values.Nodup
  registers_single : ∀ k, .int k ∈ t.registers.values → ∃ n : Nat, k = 2 ^ n
  flags : BindsBytes ["L", "G", "E", "Z", "N"] t.flags
  syscalls :
    BindsBytes ["OPEN", "READ_CODE", "READ_MEMORY", "WRITE", "SLEEP", "EXIT"] t.syscalls
  syscalls_distinct : t.syscalls.values.Nodup
  opcodes : BindsBytes ["IMM", "ADD", "STK", "STM", "LDM", "CMP", "JMP", "SYS"] t.opcodes
  opcodes_distinct : t.opcodes.values.Nodup
  layout : HasNames t.layout ["op", "a", "b"]
  places : ∃ x y z, t.layout.values.Perm [x, y, z] ∧
    x.same (.int 0) = true ∧ y.same (.int 1) = true ∧ z.same (.int 2) = true

/-! ## Bytes -/

section Bytes

variable {vs : List Value} {distinct : Bool}

theorem isSome_byteOf?_iff {v : Value} :
    (byteOf? v).isSome ↔ ∃ k : Int, v = .int k ∧ 0 ≤ k ∧ k ≤ 0xFF := by
  constructor
  · intro h
    obtain ⟨x, hx⟩ := Option.isSome_iff_exists.1 h
    have hlt := x.toNat_lt
    refine ⟨byteValue x, eq_byteAsValue_of_byteOf? hx, Int.natCast_nonneg _, ?_⟩
    simp only [byteValue, Int.ofNat_eq_natCast]
    omega
  · rintro ⟨k, rfl, h0, h1⟩
    have hk : byte? k = some (UInt8.ofNat k.toNat) := if_pos ⟨h0, h1⟩
    change (byte? k).isSome = true
    rw [hk]
    rfl

theorem areBytes_iff :
    AreBytes distinct vs ↔
      (∀ v ∈ vs, ∃ k : Int, v = .int k ∧ 0 ≤ k ∧ k ≤ 0xFF) ∧ (distinct = true → vs.Nodup) := by
  constructor
  · rintro ⟨hb, hd⟩
    exact ⟨fun v hv => isSome_byteOf?_iff.1 (hb v hv), fun h => (hd h).of_map byteOf?⟩
  · rintro ⟨hb, hd⟩
    refine ⟨fun v hv => isSome_byteOf?_iff.2 (hb v hv), fun h => (hd h).map_on ?_⟩
    intro v hv w hw hvw
    obtain ⟨x, hx⟩ := Option.isSome_iff_exists.1 (isSome_byteOf?_iff.2 (hb v hv))
    rw [hx] at hvw
    rw [eq_byteAsValue_of_byteOf? hx, eq_byteAsValue_of_byteOf? hvw.symm]

theorem singleBit_iff {x : UInt8} : SingleBit x ↔ ∃ n : Nat, byteValue x = 2 ^ n := by
  constructor
  · exact fun h => ⟨_, h.byteValue_eq⟩
  · rintro ⟨n, hn⟩
    have hlt := x.toNat_lt
    have hx : x.toNat = 2 ^ n := by
      have hc : ((x.toNat : Nat) : Int) = ((2 ^ n : Nat) : Int) := by
        rw [Int.natCast_pow]
        exact hn
      exact Int.ofNat.inj hc
    have h8 : n < 8 := by
      by_contra h
      have hle : 2 ^ 8 ≤ 2 ^ n := Nat.pow_le_pow_right (by decide) (by omega)
      omega
    have hbit : ∀ k : Fin 8, SingleBit (UInt8.ofNat (2 ^ k.val)) := by decide
    have h := hbit ⟨n, h8⟩
    rw [← hx, UInt8.ofNat_toNat] at h
    exact h

end Bytes

/-! ## Places -/

section Places

variable {v : Value} {i j : Int} {vs : List Value}

/-- A value is equal to one whole number at most. -/
theorem eq_of_same_int (hi : v.same (.int i) = true) (hj : v.same (.int j) = true) : i = j := by
  have hnumber : ∀ {k}, v.same (.int k) = true →
      ∃ x, v.number? = some x ∧ x.scaled? = (Number.whole k).scaled? := by
    intro k h
    cases v with
    | bool | int | float => exact ⟨_, rfl, Number.scaled?_eq_of_compare? (beq_iff_eq.1 h)⟩
    | _ => cases h
  obtain ⟨x, hx, hxi⟩ := hnumber hi
  obtain ⟨y, hy, hyj⟩ := hnumber hj
  obtain rfl := Option.some.inj (hx.symm.trans hy)
  exact Number.scaled?_whole_injective (hxi.symm.trans hyj)

theorem mem_places : ∀ k : Fin 3, k ∈ [(0 : Fin 3), 1, 2] := by decide

theorem smallIndex?_eq_some_iff {k : Fin 3} :
    v.smallIndex? = some k ↔ v.same (.int k.val) = true := by
  unfold Value.smallIndex?
  constructor
  · intro h
    have hp := List.find?_some h
    exact hp
  · intro h
    cases hf : [(0 : Fin 3), 1, 2].find? fun n => v.same (.int n.val) with
    | none =>
      exact absurd h (List.find?_eq_none.1 hf k (mem_places k))
    | some n =>
      have hp := List.find?_some hf
      have hn : (n.val : Int) = k.val := eq_of_same_int hp h
      rw [Fin.ext (Int.ofNat.inj hn)]

theorem smallIndices_eq {x y z : Value} (hx : x.same (.int 0) = true) (hy : y.same (.int 1) = true)
    (hz : z.same (.int 2) = true) :
    [x, y, z].map Value.smallIndex? = [some (0 : Fin 3), some 1, some 2] := by
  have h0 : x.smallIndex? = some 0 := smallIndex?_eq_some_iff.2 hx
  have h1 : y.smallIndex? = some 1 := smallIndex?_eq_some_iff.2 hy
  have h2 : z.smallIndex? = some 2 := smallIndex?_eq_some_iff.2 hz
  rw [List.map_cons, List.map_cons, List.map_cons, h0, h1, h2, List.map_nil]

/-- Three different places are all places. -/
theorem ArePlaces.exists_same (h : ArePlaces vs) (h3 : vs.length = 3) (k : Fin 3) :
    ∃ v ∈ vs, v.same (.int k.val) = true := by
  have hsub : vs.map Value.smallIndex? ⊆ [(0 : Fin 3), 1, 2].map some := by
    intro o ho
    obtain ⟨v, hv, rfl⟩ := List.mem_map.1 ho
    obtain ⟨n, hn⟩ := Option.isSome_iff_exists.1 (h.places v hv)
    rw [hn]
    exact List.mem_map_of_mem (mem_places n)
  have hperm := (List.subperm_of_subset h.distinct hsub).perm_of_length_le (by simp [h3])
  have hmem := hperm.mem_iff.2 (List.mem_map_of_mem (f := some) (mem_places k))
  obtain ⟨v, hv, hk⟩ := List.mem_map.1 hmem
  exact ⟨v, hv, smallIndex?_eq_some_iff.1 hk⟩

/-- Three values are places if they can be put into the order of the whole numbers that they are
equal to. -/
theorem arePlaces_iff (h3 : vs.length = 3) :
    ArePlaces vs ↔ ∃ x y z, vs.Perm [x, y, z] ∧
      x.same (.int 0) = true ∧ y.same (.int 1) = true ∧ z.same (.int 2) = true := by
  constructor
  · intro h
    obtain ⟨x, hx, hx0⟩ := h.exists_same h3 0
    obtain ⟨y, hy, hy1⟩ := h.exists_same h3 1
    obtain ⟨z, hz, hz2⟩ := h.exists_same h3 2
    have hne : [x, y, z].Nodup := by
      have hn : ([x, y, z].map Value.smallIndex?).Nodup := by
        rw [smallIndices_eq hx0 hy1 hz2]
        decide
      exact hn.of_map _
    have hsub : [x, y, z] ⊆ vs := by simp [hx, hy, hz]
    have hperm := (List.subperm_of_subset hne hsub).perm_of_length_le (by simp [h3])
    exact ⟨x, y, z, hperm.symm, hx0, hy1, hz2⟩
  · rintro ⟨x, y, z, hp, hx, hy, hz⟩
    have hm := hp.map Value.smallIndex?
    rw [smallIndices_eq hx hy hz] at hm
    refine ⟨fun v hv => ?_, hm.nodup_iff.2 (by decide)⟩
    have hv' := hm.mem_iff.1 (List.mem_map_of_mem hv)
    simp only [List.mem_cons, List.not_mem_nil, or_false] at hv'
    obtain h | h | h := hv' <;> rw [h] <;> rfl

theorem length_values_of_hasNames {t : Ordered String Value} {names : List String}
    (h : HasNames t names) (hn : names.Nodup) : t.values.length = names.length := by
  have hk : t.keys.Perm names := (List.perm_ext_iff_of_nodup t.keys_nodup hn).2 h
  rw [← hk.length_eq]
  unfold Ordered.values Ordered.keys
  rw [List.length_map, List.length_map]

end Places

/-! ## Five tables -/

theorem valid_iff {t : Tables} : Valid t ↔ ∀ sec, Accepts sec (t.of sec) := by
  have h3 : ∀ {l : Ordered String Value}, HasNames l ["op", "a", "b"] → l.values.length = 3 :=
    fun hn => length_values_of_hasNames hn (by decide)
  constructor
  · intro h sec
    cases sec with
    | registers =>
      refine ⟨h.registers.names, areBytes_iff.2 ⟨h.registers.bytes, fun _ => ?_⟩, ?_⟩
      · exact h.registers_distinct
      · intro v hv x hx
        rw [eq_byteAsValue_of_byteOf? hx] at hv
        exact singleBit_iff.2 (h.registers_single _ hv)
    | flags => exact ⟨h.flags.names, areBytes_iff.2 ⟨h.flags.bytes, nofun⟩⟩
    | syscalls =>
      exact ⟨h.syscalls.names, areBytes_iff.2 ⟨h.syscalls.bytes, fun _ => h.syscalls_distinct⟩⟩
    | opcodes =>
      exact ⟨h.opcodes.names, areBytes_iff.2 ⟨h.opcodes.bytes, fun _ => h.opcodes_distinct⟩⟩
    | layout => exact ⟨h.layout, (arePlaces_iff (h3 h.layout)).2 h.places⟩
  · intro h
    obtain ⟨hr, hrb, hrs⟩ := h .registers
    obtain ⟨hf, hfb⟩ := h .flags
    obtain ⟨hs, hsb⟩ := h .syscalls
    obtain ⟨ho, hob⟩ := h .opcodes
    obtain ⟨hl, hlp⟩ := h .layout
    obtain ⟨hrb, hrd⟩ := areBytes_iff.1 hrb
    obtain ⟨hsb, hsd⟩ := areBytes_iff.1 hsb
    obtain ⟨hob, hod⟩ := areBytes_iff.1 hob
    refine ⟨⟨hr, hrb⟩, hrd rfl, fun k hk => ?_, ⟨hf, (areBytes_iff.1 hfb).1⟩, ⟨hs, hsb⟩, hsd rfl,
      ⟨ho, hob⟩, hod rfl, hl, (arePlaces_iff (h3 hl)).1 hlp⟩
    obtain ⟨x, hx⟩ := Option.isSome_iff_exists.1 ((h .registers).suits.1.bytes _ hk)
    obtain ⟨n, hn⟩ := singleBit_iff.1 (hrs _ hk x hx)
    obtain rfl := byte?_eq_some_iff.1 hx
    exact ⟨n, hn⟩

end Tables

/-! ## Look-ups -/

section Lookups

variable {α : Type} [Enumerated α] [DecidableEq α] {T : Table α UInt8} {v : Int} {a : α}

/-- In a table of distinct bytes, the first member with an integer is the only one. -/
theorem Table.Distinct.firstWith?_int_iff (h : T.Distinct) :
    (T.firstWith? fun y => byteValue y == v) = some a ↔ byteValue (T.get a) = v := by
  constructor
  · exact fun hf => beq_iff_eq.1 (Table.firstWith?_eq_some hf)
  · rintro rfl
    exact h.firstWith?_byte_iff.2 rfl

theorem Table.firstWith?_int_eq_none_iff :
    (T.firstWith? fun y => byteValue y == v) = none ↔ ∀ a, byteValue (T.get a) ≠ v := by
  rw [Table.firstWith?_eq_none_iff]
  simp only [beq_eq_false_iff_ne]

/-- An entry of a table of bytes written by name. -/
theorem Table.find?_written_iff :
    (T.map fun _ => Bindings.byteAsValue).toNamed.find? (Enumerated.name a) = some (.int v) ↔
      byteValue (T.get a) = v := by
  rw [Table.find?_toNamed, Table.get_map, Option.some.injEq, Bindings.byteAsValue,
    Value.int.injEq]

end Lookups

namespace Bindings

/-- The look-ups of the integer `v` are the entries that have the value `v`. -/
structure ReadsBack (t : Tables) (b : Bindings) (v : Int) : Prop where
  register : ∀ r : Register,
    b.registerFor v = .ok (some r) ↔ t.registers.find? (Enumerated.name r) = some (.int v)
  noRegister : b.registerFor v = .ok none ↔ v = 0
  unboundRegister : (∃ f, b.registerFor v = .error f ∧ f.kind = .constants) ↔
    v ≠ 0 ∧ ∀ r : Register, t.registers.find? (Enumerated.name r) ≠ some (.int v)
  mnemonic : ∀ m : Mnemonic,
    b.mnemonicFor v = .ok m ↔ t.opcodes.find? (Enumerated.name m) = some (.int v)
  unboundMnemonic : (∃ f, b.mnemonicFor v = .error f ∧ f.kind = .constants) ↔
    ∀ m : Mnemonic, t.opcodes.find? (Enumerated.name m) ≠ some (.int v)
  syscall : ∀ s : Syscall,
    b.boundSyscall? v = some s ↔ t.syscalls.find? (Enumerated.name s) = some (.int v)
  noSyscall : b.boundSyscall? v = none ↔
    ∀ s : Syscall, t.syscalls.find? (Enumerated.name s) ≠ some (.int v)

variable {b : Bindings} {v : Int}

theorem registerFor_eq_some_iff {r : Register} :
    b.registerFor v = .ok (some r) ↔ byteValue (b.registers.get r) = v := by
  unfold registerFor
  by_cases h0 : v = 0
  · rw [if_pos h0, h0]
    refine ⟨nofun, fun h => ?_⟩
    exact absurd (byteValue_injective (y := 0) h) (register_ne_zero b r)
  · rw [if_neg h0, ← b.registers_distinct.firstWith?_int_iff]
    change _ ↔ b.boundRegister? v = some r
    cases b.boundRegister? v with
    | none => exact ⟨nofun, nofun⟩
    | some r' => rw [Except.ok.injEq]

theorem registerFor_eq_none_iff : b.registerFor v = .ok none ↔ v = 0 := by
  unfold registerFor
  by_cases h0 : v = 0
  · rw [if_pos h0]
    exact ⟨fun _ => h0, fun _ => rfl⟩
  · rw [if_neg h0]
    cases b.boundRegister? v with
    | none => exact ⟨nofun, fun h => absurd h h0⟩
    | some r => exact ⟨nofun, fun h => absurd h h0⟩

theorem registerFor_eq_error_iff {f : Fault} :
    b.registerFor v = .error f ↔ f = .binding (.unboundRegister v) ∧ v ≠ 0 ∧
      ∀ r, byteValue (b.registers.get r) ≠ v := by
  rw [← Table.firstWith?_int_eq_none_iff]
  change _ ↔ _ ∧ _ ∧ b.boundRegister? v = none
  unfold registerFor
  by_cases h0 : v = 0
  · rw [if_pos h0]
    exact ⟨nofun, fun h => absurd h0 h.2.1⟩
  · rw [if_neg h0]
    cases b.boundRegister? v with
    | none =>
      rw [Except.error.injEq]
      exact ⟨fun h => ⟨h.symm, h0, rfl⟩, fun h => h.1.symm⟩
    | some r => exact ⟨nofun, fun h => nomatch h.2.2⟩

theorem mnemonicFor_eq_ok_iff {m : Mnemonic} :
    b.mnemonicFor v = .ok m ↔ byteValue (b.opcodes.get m) = v := by
  rw [← b.opcodes_distinct.firstWith?_int_iff]
  change _ ↔ b.boundMnemonic? v = some m
  unfold mnemonicFor
  cases b.boundMnemonic? v with
  | none => exact ⟨nofun, nofun⟩
  | some m' => rw [Except.ok.injEq, Option.some.injEq]

theorem mnemonicFor_eq_error_iff {f : Fault} :
    b.mnemonicFor v = .error f ↔ f = .binding (.unboundOpcode v) ∧
      ∀ m, byteValue (b.opcodes.get m) ≠ v := by
  rw [← Table.firstWith?_int_eq_none_iff]
  change _ ↔ _ ∧ b.boundMnemonic? v = none
  unfold mnemonicFor
  cases b.boundMnemonic? v with
  | none =>
    rw [Except.error.injEq]
    exact ⟨fun h => ⟨h.symm, rfl⟩, fun h => h.1.symm⟩
  | some m => exact ⟨nofun, fun h => nomatch h.2⟩

theorem readsBack_toTables (b : Bindings) (v : Int) : ReadsBack b.toTables b v := by
  have hr : ∀ r : Register, b.toTables.registers.find? (Enumerated.name r) = some (.int v) ↔
      byteValue (b.registers.get r) = v := fun _ => Table.find?_written_iff
  have ho : ∀ m : Mnemonic, b.toTables.opcodes.find? (Enumerated.name m) = some (.int v) ↔
      byteValue (b.opcodes.get m) = v := fun _ => Table.find?_written_iff
  have hs : ∀ s : Syscall, b.toTables.syscalls.find? (Enumerated.name s) = some (.int v) ↔
      byteValue (b.syscalls.get s) = v := fun _ => Table.find?_written_iff
  exact {
    register := fun r => registerFor_eq_some_iff.trans (hr r).symm
    noRegister := registerFor_eq_none_iff
    unboundRegister := by
      simp only [ne_eq, hr, registerFor_eq_error_iff]
      constructor
      · rintro ⟨f, ⟨-, h⟩, -⟩
        exact h
      · exact fun h => ⟨_, ⟨rfl, h⟩, rfl⟩
    mnemonic := fun m => mnemonicFor_eq_ok_iff.trans (ho m).symm
    unboundMnemonic := by
      simp only [ne_eq, ho, mnemonicFor_eq_error_iff]
      constructor
      · rintro ⟨f, ⟨-, h⟩, -⟩
        exact h
      · exact fun h => ⟨_, ⟨rfl, h⟩, rfl⟩
    syscall := fun s => b.syscalls_distinct.firstWith?_int_iff.trans (hs s).symm
    noSyscall := by
      simp only [ne_eq, hs]
      exact Table.firstWith?_int_eq_none_iff }

end Bindings

/-- **Validation is exact, and the look-ups read the tables backwards.** Five tables make an
encoding exactly if their names and values are valid. The encoding has these tables, with every
entry as it was given, and finds for each integer exactly the names that they give it to: no
register is looked up by zero, and what is given to no name is refused or not found. -/
theorem Tables.validated_exactly (t : Tables) :
    ((∃ b, t.validate = .ok b) ↔ Tables.Valid t) ∧
      ∀ b, t.validate = .ok b → b.toTables = t ∧ ∀ v, Bindings.ReadsBack t b v := by
  refine ⟨exists_validate_iff.trans valid_iff.symm, fun b h => ?_⟩
  obtain rfl := validate_eq_ok_iff.1 h
  exact ⟨rfl, fun v => Bindings.readsBack_toTables b v⟩

/-- A truth value is a place, but no byte. -/
example :
    let places : Ordered String Value :=
      ⟨[("b", .bool true), ("op", .int 2), ("a", .int 0)], by decide⟩
    let flags : Ordered String Value :=
      ⟨[("L", .int 1), ("G", .int 1), ("E", .bool true), ("Z", .int 4), ("N", .int 4)], by decide⟩
    ({ Bindings.standard.toTables with layout := places }.validate).isOk = true ∧
      ({ Bindings.standard.toTables with flags }.validate).isOk = false := by
  decide +kernel

end Yan85
