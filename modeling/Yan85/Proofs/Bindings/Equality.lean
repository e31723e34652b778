import Mathlib.Algebra.Order.Ring.Rat
import Mathlib.Data.Int.Cast.Lemmas
import Yan85.Proofs.Bindings.Exactness
import Yan85.Proofs.Bindings.Exports

/-! # Equal encodings

* `Value.rational?`: the rational number that a value stands for. `rational?_bool`, `rational?_int`
  and `rational?_float` say which one; `rational?_eq_of_same` and `same_of_rational?` say that
  values with a number are equal if and only if their numbers are.
* `SameTable m m'`: two tables have the same names, with equal values under each.
* `same_asValue_iff`, `forall₂_byName_iff`: this is equality of the tables as maps, and equality
  place by place of their entries sorted by name.
* `agrees_iff_sameTable`: two encodings agree exactly if their tables are the same in this sense.
* `Hashing`: a way of hashing that gives equal values equal hashes.
* `equal_encodings_hash_alike`: what it means that two encodings agree, and that their sorted tables
  and their hashes are equal then.
-/

namespace Yan85
set_option autoImplicit false

/-! ## Numbers -/

namespace Number

variable {x y : Number} {n : Int}

theorem compare?_eq_of_scaled? (hx : x.scaled? = some n) (hy : y.scaled? = some n) :
    x.compare? y = some .eq := by
  have hself : ∀ {k l : Int}, k = l → some (compare k l) = some .eq := fun h =>
    congrArg some (Int.compare_eq_eq.2 h)
  cases x with
  | whole i =>
    cases y with
    | whole j => exact hself (scaled?_whole_injective (hx.trans hy.symm))
    | real y =>
      cases y with
      | finite => exact hself (Option.some.inj (hx.trans hy.symm))
      | infinite | nan => cases hy
  | real x =>
    cases x with
    | finite =>
      cases y with
      | whole => exact hself (Option.some.inj (hx.trans hy.symm))
      | real y =>
        cases y with
        | finite => exact hself (Option.some.inj (hx.trans hy.symm))
        | infinite | nan => cases hy
    | infinite | nan => cases hx

end Number

namespace Value

variable {v w : Value} {q r : ℚ}

/-- The rational number that a value stands for: a truth value counts as 0 or 1. The infinities and
what is no number stand for none. -/
def rational? (v : Value) : Option ℚ :=
  (v.number?.bind Number.scaled?).map fun n : Int => (n : ℚ) * 2 ^ Binary64.leastExponent

theorem rational?_eq_some_iff : v.rational? = some q ↔
    ∃ x, ∃ n : Int, v.number? = some x ∧ x.scaled? = some n ∧
      (n : ℚ) * 2 ^ Binary64.leastExponent = q := by
  unfold rational?
  simp only [Option.map_eq_some_iff, Option.bind_eq_some_iff]
  constructor
  · rintro ⟨n, ⟨x, hx, hn⟩, hq⟩
    exact ⟨x, n, hx, hn, hq⟩
  · rintro ⟨x, n, hx, hn, hq⟩
    exact ⟨n, ⟨x, hx, hn⟩, hq⟩

theorem rational?_int (i : Int) : (int i).rational? = some (i : ℚ) := by
  obtain ⟨n, hi, hn⟩ : ∃ n : Nat, (Number.whole i).scaled? = some (i * Int.ofNat (Nat.pow 2 n)) ∧
      Binary64.leastExponent = -n := ⟨_, rfl, rfl⟩
  have h2 : (2 : ℚ) ^ n ≠ 0 := pow_ne_zero n two_ne_zero
  have hcast : ((i * Int.ofNat (Nat.pow 2 n) : Int) : ℚ) = i * 2 ^ n := by
    rw [Int.cast_mul]
    simp
  refine rational?_eq_some_iff.2 ⟨_, _, rfl, hi, ?_⟩
  rw [hcast, hn, zpow_neg, zpow_natCast, mul_inv_cancel_right₀ h2]

theorem rational?_bool (b : Bool) : (bool b).rational? = some (if b then 1 else 0) := by
  have h := rational?_int (if b then 1 else 0)
  cases b
  · exact h
  · exact h

/-- A float stands for its mantissa times its power of two. -/
theorem rational?_float {m : Nat} {e : Int} (s : Bool) (he : Binary64.leastExponent ≤ e) :
    (float (.finite s m e)).rational? = some ((if s then -1 else 1) * (m * 2 ^ e) : ℚ) := by
  have hexp : (2 : ℚ) ^ (e - Binary64.leastExponent).toNat * 2 ^ Binary64.leastExponent =
      2 ^ e := by
    rw [← zpow_natCast, ← zpow_add₀ two_ne_zero, Int.toNat_of_nonneg (Int.sub_nonneg.2 he),
      Int.sub_add_cancel]
  have hpos : ((Int.ofNat (m * Nat.pow 2 (e - Binary64.leastExponent).toNat) : Int) : ℚ) *
      2 ^ Binary64.leastExponent = m * 2 ^ e := by
    rw [← hexp]
    simp [mul_assoc]
  refine rational?_eq_some_iff.2 ⟨_, _, rfl, rfl, ?_⟩
  cases s with
  | false =>
    rw [if_neg Bool.false_ne_true, if_neg Bool.false_ne_true, one_mul]
    exact hpos
  | true =>
    rw [if_pos rfl, if_pos rfl, Int.cast_neg, neg_mul, neg_one_mul]
    exact congrArg Neg.neg hpos

theorem same_eq_sameNumber {x : Number} (hv : v.number? = some x) (w : Value) :
    v.same w = sameNumber x w.number? := by
  cases v with
  | bool | int | float =>
    obtain rfl := Option.some.inj hv
    cases w <;> rfl
  | _ => cases hv

theorem number?_eq_none_of_same (hv : v.number? = none) (h : v.same w = true) :
    w.number? = none := by
  cases w with
  | bool | int | float =>
    cases v with
    | bool | int | float => cases hv
    | _ => cases h
  | _ => rfl

theorem sameNumber_iff {x : Number} {o : Option Number} :
    sameNumber x o = true ↔ ∃ y, o = some y ∧ x.compare? y = some .eq := by
  cases o with
  | none => exact ⟨nofun, nofun⟩
  | some y =>
    constructor
    · exact fun h => ⟨y, rfl, beq_iff_eq.1 h⟩
    · rintro ⟨z, hz, h⟩
      obtain rfl := Option.some.inj hz
      exact beq_iff_eq.2 h

/-- Equal values stand for the same number, or both for none. -/
theorem rational?_eq_of_same (h : v.same w = true) : v.rational? = w.rational? := by
  unfold rational?
  cases hv : v.number? with
  | none => rw [number?_eq_none_of_same hv h]
  | some x =>
    rw [same_eq_sameNumber hv, sameNumber_iff] at h
    obtain ⟨y, hy, hxy⟩ := h
    rw [hy, Option.bind_some, Option.bind_some, Number.scaled?_eq_of_compare? hxy]

theorem same_of_rational? (hv : v.rational? = some q) (hw : w.rational? = some q) :
    v.same w = true := by
  obtain ⟨x, n, hx, hn, hq⟩ := rational?_eq_some_iff.1 hv
  obtain ⟨y, m, hy, hm, hr⟩ := rational?_eq_some_iff.1 hw
  have hunit : (2 : ℚ) ^ Binary64.leastExponent ≠ 0 := zpow_ne_zero _ two_ne_zero
  have hnm : n = m := Int.cast_injective (mul_right_cancel₀ hunit (hq.trans hr.symm))
  rw [same_eq_sameNumber hx, sameNumber_iff]
  exact ⟨y, hy, Number.compare?_eq_of_scaled? hn (hnm ▸ hm)⟩

end Value

/-! ## Tables -/

theorem Enumerated.all_eq_true_iff {α : Type} [Enumerated α] {p : α → Bool} :
    (all : List α).all p = true ↔ ∀ a, p a = true := by
  rw [List.all_eq_true]
  exact ⟨fun h a => h a (mem_all a), fun h a _ => h a⟩

theorem Ordered.eq_of_mem_entries {κ α : Type} [DecidableEq κ] {m : Ordered κ α} {k : κ} {x y : α}
    (hx : (k, x) ∈ m.entries) (hy : (k, y) ∈ m.entries) : x = y := by
  have hf := Ordered.find?_eq_some_iff_mem.2 hx
  rw [Ordered.find?_eq_some_iff_mem.2 hy] at hf
  exact (Option.some.inj hf).symm

namespace Tables

variable {m m' : Ordered String Value}

/-- A named value is equal to another one. -/
def SameNamed (e f : String × Value) : Prop := e.1 = f.1 ∧ e.2.same f.2 = true

/-- The tables have the same names, with equal values under each, in whatever order. -/
structure SameTable (m m' : Ordered String Value) : Prop where
  names : ∀ s, s ∈ m.keys ↔ s ∈ m'.keys
  values : ∀ s v w, (s, v) ∈ m.entries → (s, w) ∈ m'.entries → v.same w = true

/-- A table gives the name `s` a value that stands for the number `q`. -/
def Gives (m : Ordered String Value) (s : String) (q : ℚ) : Prop :=
  ∃ v, (s, v) ∈ m.entries ∧ v.rational? = some q

/-- The tables give the same numbers to the same names. -/
def SameNumbers (m m' : Ordered String Value) : Prop := ∀ s q, Gives m s q ↔ Gives m' s q

/-- A table as a map of a document. -/
def asValue (m : Ordered String Value) : Value :=
  .map (m.entries.map fun e => (.text (.ofString e.1), e.2))

/-- Named values in the order of their names. -/
def byName (es : List (String × Value)) : List (String × Value) :=
  es.mergeSort fun x y => decide (x.1 ≤ y.1)

theorem mem_keys_iff {s : String} : s ∈ m.keys ↔ ∃ v, (s, v) ∈ m.entries := by
  unfold Ordered.keys
  rw [List.mem_map]
  constructor
  · rintro ⟨⟨s, v⟩, hm, rfl⟩
    exact ⟨v, hm⟩
  · rintro ⟨v, hm⟩
    exact ⟨(s, v), hm, rfl⟩

theorem SameTable.perm_keys (h : SameTable m m') : m.keys.Perm m'.keys :=
  (List.perm_ext_iff_of_nodup m.keys_nodup m'.keys_nodup).2 h.names

theorem length_keys (m : Ordered String Value) : m.keys.length = m.entries.length :=
  List.length_map _

/-- As many entries, each of which is in the other table, make the same table. -/
theorem sameTable_iff : SameTable m m' ↔ m.entries.length = m'.entries.length ∧
    ∀ e ∈ m.entries, ∃ f ∈ m'.entries, SameNamed e f := by
  constructor
  · intro h
    refine ⟨?_, ?_⟩
    · rw [← length_keys, ← length_keys]
      exact h.perm_keys.length_eq
    · rintro ⟨s, v⟩ hv
      obtain ⟨w, hw⟩ := mem_keys_iff.1 ((h.names s).1 (mem_keys_iff.2 ⟨v, hv⟩))
      exact ⟨(s, w), hw, rfl, h.values s v w hv hw⟩
  · rintro ⟨hl, hm⟩
    have hsub : m.keys ⊆ m'.keys := by
      intro s hs
      obtain ⟨v, hv⟩ := mem_keys_iff.1 hs
      obtain ⟨⟨s', w⟩, hw, rfl, -⟩ := hm _ hv
      exact mem_keys_iff.2 ⟨w, hw⟩
    have hlen : m'.keys.length ≤ m.keys.length := by
      rw [length_keys, length_keys, hl]
    have hperm := (List.subperm_of_subset m.keys_nodup hsub).perm_of_length_le hlen
    refine ⟨fun s => hperm.mem_iff, fun s v w hv hw => ?_⟩
    obtain ⟨⟨s', w'⟩, hw', rfl, hs⟩ := hm _ hv
    rw [Ordered.eq_of_mem_entries hw hw']
    exact hs

/-! ## Tables as maps -/

theorem allMatched_iff {xs ys : List (Value × Value)} :
    Value.allMatched xs ys = true ↔ ∀ e ∈ xs, ∃ f ∈ ys, Value.sameEntry e f = true := by
  induction xs with
  | nil => exact ⟨fun _ _ h => absurd h List.not_mem_nil, fun _ => rfl⟩
  | cons e xs ih =>
    rw [List.forall_mem_cons, ← ih, ← List.any_eq_true]
    exact Bool.and_eq_true_iff

theorem same_asValue_iff : (asValue m).same (asValue m') = true ↔ SameTable m m' := by
  have hnamed : ∀ e f : String × Value,
      Value.sameEntry (.text (.ofString e.1), e.2) (.text (.ofString f.1), f.2) = true ↔
        SameNamed e f := by
    intro e f
    have hkey : Value.same (.text (.ofString e.1)) (.text (.ofString f.1)) = true ↔ e.1 = f.1 := by
      rw [same_text_iff, Value.text.injEq]
      exact ⟨Text.ofString_injective, congrArg _⟩
    exact Bool.and_eq_true_iff.trans (and_congr_left' hkey)
  rw [sameTable_iff]
  unfold asValue
  refine Bool.and_eq_true_iff.trans (and_congr ?_ ?_)
  · rw [beq_iff_eq, List.length_map, List.length_map]
  · rw [allMatched_iff, List.forall_mem_map]
    simp only [List.mem_map, exists_exists_and_eq_and, hnamed]

/-! ## Tables sorted by name -/

theorem byName_perm (es : List (String × Value)) : (byName es).Perm es := List.mergeSort_perm _ _

theorem map_fst_byName (h : m.keys.Perm m'.keys) :
    (byName m.entries).map Prod.fst = (byName m'.entries).map Prod.fst := by
  have hsorted : ∀ es : List (String × Value), ((byName es).map Prod.fst).Pairwise (· ≤ ·) := by
    intro es
    rw [List.pairwise_map]
    refine (List.pairwise_mergeSort ?_ ?_ es).imp of_decide_eq_true
    · intro x y z hxy hyz
      exact decide_eq_true (String.le_trans (of_decide_eq_true hxy) (of_decide_eq_true hyz))
    · intro x y
      simpa using String.le_total x.1 y.1
  have hkeys := ((byName_perm m.entries).map Prod.fst).trans
    (h.trans ((byName_perm m'.entries).map Prod.fst).symm)
  exact hkeys.eq_of_pairwise (fun _ _ _ _ => String.le_antisymm) (hsorted _) (hsorted _)

theorem sameEntries_iff {xs ys : List (String × Value)} :
    Bindings.sameEntries xs ys = true ↔ List.Forall₂ SameNamed xs ys := by
  unfold Bindings.sameEntries SameNamed
  rw [List.forall₂_iff_zip, Bool.and_eq_true, beq_iff_eq, List.all_eq_true]
  simp only [Bool.and_eq_true, beq_iff_eq, Prod.forall]

theorem forall₂_of_map_fst {xs ys : List (String × Value)}
    (hn : xs.map Prod.fst = ys.map Prod.fst)
    (hv : ∀ s v w, (s, v) ∈ xs → (s, w) ∈ ys → v.same w = true) :
    List.Forall₂ SameNamed xs ys := by
  induction xs generalizing ys with
  | nil =>
    obtain rfl := List.map_eq_nil_iff.1 hn.symm
    exact .nil
  | cons e xs ih =>
    cases ys with
    | nil => cases hn
    | cons f ys =>
      obtain ⟨s, v⟩ := e
      obtain ⟨s', w⟩ := f
      obtain ⟨rfl, hns⟩ := List.cons.inj hn
      refine .cons ⟨rfl, hv _ v w List.mem_cons_self List.mem_cons_self⟩ (ih hns ?_)
      exact fun s v w hm hm' => hv s v w (List.mem_cons_of_mem _ hm) (List.mem_cons_of_mem _ hm')

theorem exists_mem_of_forall₂ {α β : Type} {R : α → β → Prop} {xs : List α} {ys : List β}
    (h : List.Forall₂ R xs ys) : ∀ x ∈ xs, ∃ y ∈ ys, R x y := by
  induction h with
  | nil => exact fun _ hx => absurd hx List.not_mem_nil
  | cons hr _ ih =>
    refine List.forall_mem_cons.2 ⟨⟨_, List.mem_cons_self, hr⟩, fun x hx => ?_⟩
    obtain ⟨y, hy, hxy⟩ := ih x hx
    exact ⟨y, List.mem_cons_of_mem _ hy, hxy⟩

theorem forall₂_byName_iff :
    List.Forall₂ SameNamed (byName m.entries) (byName m'.entries) ↔ SameTable m m' := by
  have hm := byName_perm m.entries
  have hm' := byName_perm m'.entries
  constructor
  · intro h
    refine sameTable_iff.2 ⟨?_, fun e he => ?_⟩
    · rw [← hm.length_eq, h.length_eq, hm'.length_eq]
    · obtain ⟨f, hf, hef⟩ := exists_mem_of_forall₂ h e (hm.mem_iff.2 he)
      exact ⟨f, hm'.mem_iff.1 hf, hef⟩
  · intro h
    refine forall₂_of_map_fst (map_fst_byName h.perm_keys) fun s v w hv hw => ?_
    exact h.values s v w (hm.mem_iff.1 hv) (hm'.mem_iff.1 hw)

/-! ## Tables of numbers -/

theorem sameNumbers_iff (hm : ∀ v ∈ m.values, ∃ q, v.rational? = some q)
    (hm' : ∀ v ∈ m'.values, ∃ q, v.rational? = some q) : SameNumbers m m' ↔ SameTable m m' := by
  have hvalue : ∀ {m : Ordered String Value} {s v}, (s, v) ∈ m.entries → v ∈ m.values :=
    fun h => List.mem_map_of_mem (f := Prod.snd) h
  constructor
  · intro h
    refine ⟨fun s => ?_, fun s v w hv hw => ?_⟩
    · rw [mem_keys_iff, mem_keys_iff]
      constructor
      · rintro ⟨v, hv⟩
        obtain ⟨q, hq⟩ := hm v (hvalue hv)
        obtain ⟨w, hw, -⟩ := (h s q).1 ⟨v, hv, hq⟩
        exact ⟨w, hw⟩
      · rintro ⟨w, hw⟩
        obtain ⟨q, hq⟩ := hm' w (hvalue hw)
        obtain ⟨v, hv, -⟩ := (h s q).2 ⟨w, hw, hq⟩
        exact ⟨v, hv⟩
    · obtain ⟨q, hq⟩ := hm v (hvalue hv)
      obtain ⟨w', hw', hq'⟩ := (h s q).1 ⟨v, hv, hq⟩
      rw [Ordered.eq_of_mem_entries hw hw']
      exact Value.same_of_rational? hq hq'
  · intro h s q
    constructor
    · rintro ⟨v, hv, hq⟩
      obtain ⟨w, hw⟩ := mem_keys_iff.1 ((h.names s).1 (mem_keys_iff.2 ⟨v, hv⟩))
      exact ⟨w, hw, by rw [← Value.rational?_eq_of_same (h.values s v w hv hw), hq]⟩
    · rintro ⟨w, hw, hq⟩
      obtain ⟨v, hv⟩ := mem_keys_iff.1 ((h.names s).2 (mem_keys_iff.2 ⟨w, hw⟩))
      exact ⟨v, hv, by rw [Value.rational?_eq_of_same (h.values s v w hv hw), hq]⟩

/-- The values of a table that is accepted are numbers. -/
theorem Accepts.exists_rational? {sec : Section} (h : Accepts sec m) :
    ∀ v ∈ m.values, ∃ q, v.rational? = some q := by
  have hbytes : ∀ {distinct}, AreBytes distinct m.values →
      ∀ v ∈ m.values, ∃ q, v.rational? = some q := by
    intro distinct hb v hv
    obtain ⟨k, rfl, -⟩ := isSome_byteOf?_iff.1 (hb.bytes v hv)
    exact ⟨k, Value.rational?_int k⟩
  have hs := h.suits
  cases sec with
  | registers => exact hbytes hs.1
  | flags | syscalls | opcodes => exact hbytes hs
  | layout =>
    intro v hv
    obtain ⟨k, hk⟩ := Option.isSome_iff_exists.1 (hs.places v hv)
    have hsame := Value.rational?_eq_of_same (smallIndex?_eq_some_iff.1 hk)
    exact ⟨_, hsame.trans (Value.rational?_int _)⟩

end Tables

/-! ## Encodings -/

open Tables

theorem Table.sameTable_toNamed_iff {α : Type} [Enumerated α] [DecidableEq α]
    {T U : Table α Value} :
    SameTable T.toNamed U.toNamed ↔ ∀ a, (T.get a).same (U.get a) = true := by
  have hentry : ∀ {T : Table α Value} {s v}, (s, v) ∈ T.toNamed.entries →
      ∃ a, s = Enumerated.name a ∧ v = T.get a := by
    intro T s v h
    rw [entries_toNamed] at h
    obtain ⟨⟨a, x⟩, hm, he⟩ := List.mem_map.1 h
    obtain ⟨rfl, rfl⟩ := Prod.mk.inj he
    exact ⟨a, rfl, eq_get_of_mem hm⟩
  have hget : ∀ (T : Table α Value) a, (Enumerated.name a, T.get a) ∈ T.toNamed.entries :=
    fun T a => Ordered.find?_eq_some_iff_mem.1 (find?_toNamed T a)
  constructor
  · exact fun h a => h.values _ _ _ (hget T a) (hget U a)
  · intro h
    refine ⟨fun s => ((hasNames_toNamed T) s).trans ((hasNames_toNamed U) s).symm, ?_⟩
    intro s v w hv hw
    obtain ⟨a, rfl, rfl⟩ := hentry hv
    obtain ⟨a', hn, rfl⟩ := hentry hw
    rw [← Enumerated.name_injective a a' hn]
    exact h a

theorem Table.sameTable_bytes_iff {α : Type} [Enumerated α] [DecidableEq α]
    {T U : Table α UInt8} :
    SameTable (T.map fun _ => Bindings.byteAsValue).toNamed
      (U.map fun _ => Bindings.byteAsValue).toNamed ↔ ∀ a, T.get a = U.get a := by
  have hsame : ∀ x y, (Bindings.byteAsValue x).same (Bindings.byteAsValue y) = true ↔ x = y := by
    intro x y
    constructor
    · exact fun h => byteValue_injective (eq_of_same_int (Bindings.same_int _) h)
    · rintro rfl
      exact Bindings.same_int _
  rw [sameTable_toNamed_iff]
  simp only [get_map, hsame]

namespace Bindings

variable {x y : Bindings}

theorem agrees_iff_sameTable :
    x.agrees y = true ↔ ∀ sec, SameTable (x.toTables.of sec) (y.toTables.of sec) := by
  have hr := Table.sameTable_bytes_iff (T := x.registers) (U := y.registers)
  have hf := Table.sameTable_bytes_iff (T := x.flags) (U := y.flags)
  have hs := Table.sameTable_bytes_iff (T := x.syscalls) (U := y.syscalls)
  have ho := Table.sameTable_bytes_iff (T := x.opcodes) (U := y.opcodes)
  have hl := Table.sameTable_toNamed_iff (T := x.layout.table) (U := y.layout.table)
  unfold agrees
  simp only [Bool.and_eq_true, Enumerated.all_eq_true_iff, beq_iff_eq, ← hr, ← hf, ← hs, ← ho, ← hl]
  constructor
  · rintro ⟨⟨⟨⟨hr, hf⟩, hs⟩, ho⟩, hl⟩ sec
    cases sec
    · exact hr
    · exact hf
    · exact hs
    · exact ho
    · exact hl
  · exact fun h => ⟨⟨⟨⟨h .registers, h .flags⟩, h .syscalls⟩, h .opcodes⟩, h .layout⟩

theorem sortedTables_eq (b : Bindings) : b.sortedTables =
    (Enumerated.all : List Section).map fun sec => byName (b.toTables.of sec).entries := rfl

theorem sameSortedTables_iff : x.sameSortedTables y = true ↔
    ∀ sec, SameTable (x.toTables.of sec) (y.toTables.of sec) := by
  unfold sameSortedTables
  rw [sortedTables_eq, sortedTables_eq, List.zip_map', List.all_map, Enumerated.all_eq_true_iff]
  simp only [Function.comp_apply, sameEntries_iff, forall₂_byName_iff]

end Bindings

/-! ## Hashes -/

/-- A way of hashing with results in `H`. Values that are equal have equal hashes, and the hash of a
sequence comes from those of its items. -/
structure Hashing (H : Type) where
  name : String → H
  value : Value → H
  tuple : List H → H
  value_eq : ∀ {v w : Value}, v.same w = true → value v = value w

namespace Hashing

variable {H : Type} (g : Hashing H)

/-- The hash of a named value. -/
def named (e : String × Value) : H := g.tuple [g.name e.1, g.value e.2]

/-- The hash of a table sorted by name. -/
def table (es : List (String × Value)) : H := g.tuple (es.map g.named)

/-- The hash of an encoding, which is that of its sorted tables. -/
def encoding (b : Bindings) : H := g.tuple (b.sortedTables.map g.table)

theorem table_eq {xs ys : List (String × Value)} (h : List.Forall₂ SameNamed xs ys) :
    g.table xs = g.table ys := by
  have hnamed : xs.map g.named = ys.map g.named := by
    induction h with
    | nil => rfl
    | cons hef _ ih =>
      obtain ⟨hn, hv⟩ := hef
      rw [List.map_cons, List.map_cons, ih, named, named, hn, g.value_eq hv]
  rw [table, table, hnamed]

theorem encoding_eq {x y : Bindings} (h : x.agrees y = true) : g.encoding x = g.encoding y := by
  rw [Bindings.agrees_iff_sameTable] at h
  unfold encoding
  rw [Bindings.sortedTables_eq, Bindings.sortedTables_eq, List.map_map, List.map_map]
  congr 1
  exact List.map_congr_left fun sec _ => g.table_eq (forall₂_byName_iff.2 (h sec))

end Hashing

namespace Bindings

/-- **Encodings are equal by their numbers, and equal ones hash alike.** Two encodings agree exactly
if the tables that they are made of give the same numbers to the same names, however the numbers are
written and in whatever order; this is the same as equality of the tables as maps. Exactly then
their tables sorted by name are equal place by place, and so are the hashes that are taken of
these. -/
theorem equal_encodings_hash_alike {t u : Tables} {x y : Bindings} (hx : t.validate = .ok x)
    (hy : u.validate = .ok y) :
    (x.agrees y = true ↔ ∀ sec, SameNumbers (t.of sec) (u.of sec)) ∧
      (x.agrees y = true ↔ ∀ sec, (asValue (t.of sec)).same (asValue (u.of sec)) = true) ∧
      (x.agrees y = true ↔ x.sameSortedTables y = true) ∧
      (x.agrees y = true → ∀ {H : Type} (g : Hashing H), g.encoding x = g.encoding y) := by
  obtain rfl := toTables_of_validate hx
  obtain rfl := toTables_of_validate hy
  refine ⟨?_, ?_, ?_, fun h _ g => g.encoding_eq h⟩
  · rw [agrees_iff_sameTable]
    refine forall_congr' fun sec => (sameNumbers_iff ?_ ?_).symm
    · exact (accepts_toTables x sec).exists_rational?
    · exact (accepts_toTables y sec).exists_rational?
  · rw [agrees_iff_sameTable]
    exact forall_congr' fun sec => same_asValue_iff.symm
  · rw [agrees_iff_sameTable, sameSortedTables_iff]

/-- A hash of the letters of names and of the whole part of numbers. -/
def wholeHashing : Hashing Int where
  name s := s.toList.foldl (fun h c => 31 * h + c.toNat) 7
  value v := (v.rational?.map Rat.floor).getD 0
  tuple hs := hs.foldl (fun h k => 31 * h + k) hs.length
  value_eq h := by rw [Value.rational?_eq_of_same h]

/-- The standard encoding with its registers listed backwards and its places in another order, as a
float and as truth values. -/
def standardRetyped : Bindings where
  registers := ⟨⟨standardRegisters.entries.reverse, by decide⟩, by intro a; cases a <;> decide⟩
  flags := standardFlags
  syscalls := standardSyscalls
  opcodes := standardOpcodes
  layout := ⟨⟨⟨[(.second, .float (.finite false 4503599627370496 (-51))), (.op, .bool false),
    (.first, .bool true)], by decide⟩, by intro a; cases a <;> decide⟩, by decide +kernel⟩
  registers_distinct := by unfold Table.Distinct; decide
  registers_single r := by cases r <;> decide
  syscalls_distinct := standard.syscalls_distinct
  opcodes_distinct := standard.opcodes_distinct

theorem standardRetyped_hashes_alike :
    standard.toTables.validate = .ok standard ∧
      standardRetyped.toTables.validate = .ok standardRetyped ∧
      standard.agrees standardRetyped = true ∧
      SameNumbers standard.toTables.layout standardRetyped.toTables.layout ∧
      standard.sameSortedTables standardRetyped = true ∧
      wholeHashing.encoding standard = wholeHashing.encoding standardRetyped := by
  have hx := validate_toTables standard
  have hy := validate_toTables standardRetyped
  obtain ⟨hnumbers, -, hsorted, hhash⟩ := equal_encodings_hash_alike hx hy
  have h : standard.agrees standardRetyped = true := by decide +kernel
  exact ⟨hx, hy, h, hnumbers.1 h .layout, hsorted.1 h, hhash h wholeHashing⟩

end Bindings

end Yan85
