import Mathlib.Data.List.Nodup
import Yan85.Proofs.Bindings.Validation

/-! # Encodings and the tables that describe them

* `find?_eq_some_iff_mem`, `find?_toNamed`: what is found in a table, and in one written by name.
* `Table.get_eq_of_perm`, `Accepts.perm`: the order of the entries counts neither for what is found
  nor for what is accepted.
* `toTables_of_validate`, `toTables_injective`, `validate_toTables`: an encoding has the tables that
  it was made of, is known by them, and is made of them again.
* `validate_eq_ok_iff`: five tables make an encoding exactly if they are its tables.
-/

namespace Yan85
set_option autoImplicit false

/-! ## Maps and tables -/

theorem Ordered.ext_entries {κ α : Type} {m m' : Ordered κ α} (h : m.entries = m'.entries) :
    m = m' := by
  cases m
  cases m'
  simpa using h

theorem Ordered.find?_eq_some_iff_mem {κ α : Type} [DecidableEq κ] {m : Ordered κ α} {k : κ}
    {x : α} : m.find? k = some x ↔ (k, x) ∈ m.entries := by
  obtain ⟨es, hes⟩ := m
  simp only [Ordered.find?]
  induction es with
  | nil => simp
  | cons e es ih =>
    obtain ⟨j, y⟩ := e
    rw [List.map_cons, List.nodup_cons] at hes
    by_cases hk : k = j
    · subst hk
      have hn : (k, x) ∉ es := fun hm => hes.1 (List.mem_map.2 ⟨_, hm, rfl⟩)
      rw [List.lookup_cons_self, List.mem_cons, Option.some.injEq, Prod.mk.injEq]
      constructor
      · rintro rfl
        exact .inl ⟨rfl, rfl⟩
      · rintro (⟨-, rfl⟩ | hm)
        · rfl
        · exact absurd hm hn
    · have hb : (k == j) = false := by simpa using hk
      rw [List.lookup_cons, hb, List.mem_cons, Prod.mk.injEq, ih hes.2]
      simp [hk]

theorem Ordered.entries_ofList {κ α : Type} [DecidableEq κ] {es : List (κ × α)}
    (h : (es.map Prod.fst).Nodup) : (Ordered.ofList es).entries = es := by
  -- The fold starts anywhere, with keys that do not come again.
  have hfold : ∀ m : Ordered κ α, (m.keys ++ es.map Prod.fst).Nodup →
      (es.foldl (fun m e => m.insert e.1 e.2) m).entries = m.entries ++ es := by
    induction es with
    | nil => exact fun m _ => (List.append_nil _).symm
    | cons e es ih =>
      intro m hm
      have hk : e.1 ∉ m.keys := fun hk =>
        (List.nodup_append.1 hm).2.2 _ hk _ List.mem_cons_self rfl
      have hins : (m.insert e.1 e.2).keys = m.keys ++ [e.1] := by
        unfold Ordered.keys
        rw [Ordered.entries_insert _ hk, List.map_append]
        rfl
      rw [List.map_cons, List.append_cons, ← hins] at hm
      rw [List.foldl_cons, ih (List.nodup_cons.1 h).2 _ hm, Ordered.entries_insert _ hk,
        List.append_assoc]
      rfl
  exact hfold .empty h

namespace Table

variable {α β γ : Type} [Enumerated α]

theorem ext_entries {t t' : Table α β} (h : t.entries = t'.entries) : t = t' := by
  obtain ⟨m, hm⟩ := t
  obtain ⟨m', hm'⟩ := t'
  obtain rfl : m = m' := Ordered.ext_entries h
  rfl

theorem entries_map (f : α → β → γ) (t : Table α β) :
    (t.map f).entries = t.entries.map fun e => (e.1, f e.1 e.2) := rfl

theorem entries_toNamed (t : Table α Value) :
    t.toNamed.entries = t.entries.map fun e => (Enumerated.name e.1, e.2) := rfl

theorem toNamed_injective {t t' : Table α Value} (h : t.toNamed = t'.toNamed) : t = t' := by
  have he : t.toNamed.entries = t'.toNamed.entries := congrArg Ordered.entries h
  rw [entries_toNamed, entries_toNamed] at he
  refine ext_entries ((List.map_inj_right ?_).1 he)
  rintro ⟨a, v⟩ ⟨b, w⟩ hab
  simp only [Prod.mk.injEq] at hab
  rw [Enumerated.name_injective a b hab.1, hab.2]

theorem map_byteAsValue_injective {t t' : Table α UInt8}
    (h : (t.map fun _ => Bindings.byteAsValue) = t'.map fun _ => Bindings.byteAsValue) :
    t = t' := by
  have he : (t.map fun _ => Bindings.byteAsValue).entries =
      (t'.map fun _ => Bindings.byteAsValue).entries := by rw [h]
  rw [entries_map, entries_map] at he
  refine ext_entries ((List.map_inj_right ?_).1 he)
  rintro ⟨a, x⟩ ⟨b, y⟩ hab
  simp only [Bindings.byteAsValue, Prod.mk.injEq, Value.int.injEq] at hab
  rw [hab.1, byteValue_injective hab.2]

theorem hasNames_toNamed (t : Table α Value) : Tables.HasNames t.toNamed (namesOf α) := by
  intro s
  unfold Ordered.keys namesOf
  rw [entries_toNamed, List.map_map, List.mem_map, List.mem_map]
  constructor
  · rintro ⟨e, -, rfl⟩
    exact ⟨e.1, Enumerated.mem_all e.1, rfl⟩
  · rintro ⟨a, -, rfl⟩
    obtain ⟨e, he, rfl⟩ := List.mem_map.1 (t.complete a)
    exact ⟨e, he, rfl⟩

theorem values_toNamed (t : Table α Value) : t.toNamed.values = t.values := by
  unfold Ordered.values
  rw [entries_toNamed, List.map_map]
  rfl

theorem values_map_byteAsValue (t : Table α UInt8) :
    (t.map fun _ => Bindings.byteAsValue).values = t.values.map Bindings.byteAsValue := by
  unfold Ordered.values
  rw [entries_map, List.map_map, List.map_map]
  rfl

/-- What is found under the name of a member is its entry. -/
theorem find?_toNamed [DecidableEq α] (t : Table α Value) (a : α) :
    t.toNamed.find? (Enumerated.name a) = some (t.get a) := by
  rw [Ordered.find?_eq_some_iff_mem, entries_toNamed]
  exact List.mem_map_of_mem (f := fun e => (Enumerated.name e.1, e.2)) (t.mem_entries_get a)

theorem get_eq_of_perm [DecidableEq α] {T T' : Table α Value}
    (h : T'.toNamed.entries.Perm T.toNamed.entries) (a : α) : T'.get a = T.get a := by
  have hm := Ordered.find?_eq_some_iff_mem.1 (find?_toNamed T' a)
  have hf := Ordered.find?_eq_some_iff_mem.2 (h.mem_iff.1 hm)
  rw [find?_toNamed] at hf
  exact (Option.some.inj hf).symm

theorem get_eq_of_perm_bytes [DecidableEq α] {T T' : Table α UInt8}
    (h : (T'.map fun _ => Bindings.byteAsValue).toNamed.entries.Perm
      (T.map fun _ => Bindings.byteAsValue).toNamed.entries) (a : α) : T'.get a = T.get a := by
  have hg := get_eq_of_perm h a
  rw [get_map, get_map] at hg
  exact byteValue_injective (Value.int.inj hg)

end Table

namespace Tables

/-! ## What the checks let through -/

section Checks

variable {α : Type} [Enumerated α] {sec : Section} {t : Ordered String Value} {T : Table α Value}

theorem toNamed_of_named? (h : named? α sec t = .ok T) : T.toNamed = t := by
  unfold named? at h
  split at h
  case isFalse => cases h
  case isTrue hm =>
    split at h
    case isFalse => cases h
    case isTrue hu =>
      cases h
      apply Ordered.ext_entries
      rw [Table.entries_toNamed]
      have hk := unknown_eq_nil_iff.1 hu
      unfold Ordered.keys at hk
      -- Every entry is one of a member, so that none is lost.
      simp only
      generalize t.entries = es at hk
      induction es with
      | nil => rfl
      | cons e es ih =>
        rw [List.map_cons, List.forall_mem_cons] at hk
        obtain ⟨a, ha⟩ := Option.isSome_iff_exists.1 (mem_namesOf_iff.1 hk.1)
        have he : member? (α := α) e = some (a, e.2) := by rw [member?, ha, Option.map_some]
        rw [List.filterMap_cons_some he, List.map_cons, ih hk.2, Enumerated.name_of_ofName? ha]

theorem eq_byteAsValue_of_byteOf? {v : Value} {x : UInt8} (h : byteOf? v = some x) :
    v = Bindings.byteAsValue x := by
  cases v with
  | int k => rw [Bindings.byteAsValue, byte?_eq_some_iff.1 h]
  | _ => cases h

theorem entries_of_bytesAfter {distinct : Bool} {es : List (α × Value)}
    {seen r : List (α × UInt8)} (h : bytesAfter sec distinct seen es = .ok r) :
    r.map (fun e => (e.1, Bindings.byteAsValue e.2)) =
      seen.map (fun e => (e.1, Bindings.byteAsValue e.2)) ++ es := by
  induction es generalizing seen with
  | nil =>
    simp only [bytesAfter, Except.ok.injEq] at h
    rw [h, List.append_nil]
  | cons e es ih =>
    obtain ⟨a, v⟩ := e
    simp only [bytesAfter] at h
    split at h
    case h_1 => cases h
    case h_2 x hx =>
      split at h
      case h_1 => cases h
      case h_2 =>
        rw [ih h, List.map_append, List.append_assoc, eq_byteAsValue_of_byteOf? hx]
        rfl

theorem map_of_bytes? {B : Table α UInt8} (h : bytes? sec T = .ok B) :
    (B.map fun _ => Bindings.byteAsValue) = T := by
  unfold bytes? at h
  split at h
  case h_1 => cases h
  case h_2 r hr =>
    cases h
    exact Table.ext_entries (entries_of_bytesAfter hr)

theorem map_of_distinctBytes? {B : { t : Table α UInt8 // t.Distinct }}
    (h : distinctBytes? sec T = .ok B) : (B.1.map fun _ => Bindings.byteAsValue) = T :=
  Table.ext_entries (entries_of_bytesAfter (entries_of_distinctBytes? h))

end Checks

/-! ## Other orders of the entries -/

section Orders

variable {sec : Section} {distinct : Bool} {t t' : Ordered String Value} {vs vs' : List Value}

theorem AreBytes.perm (h : AreBytes distinct vs) (hp : vs'.Perm vs) : AreBytes distinct vs' :=
  ⟨fun v hv => h.bytes v (hp.mem_iff.1 hv),
    fun hd => (hp.map byteOf?).nodup_iff.2 (h.distinct hd)⟩

theorem ArePlaces.perm (h : ArePlaces vs) (hp : vs'.Perm vs) : ArePlaces vs' :=
  ⟨fun v hv => h.places v (hp.mem_iff.1 hv),
    (hp.map Value.smallIndex?).nodup_iff.2 h.distinct⟩

theorem Accepts.perm (h : Accepts sec t) (hp : t'.entries.Perm t.entries) : Accepts sec t' := by
  have hk : t'.keys.Perm t.keys := hp.map Prod.fst
  have hv : t'.values.Perm t.values := hp.map Prod.snd
  refine ⟨fun s => hk.mem_iff.trans (h.names s), ?_⟩
  have hs := h.suits
  cases sec with
  | registers => exact ⟨hs.1.perm hv, fun v hm => hs.2 v (hv.mem_iff.1 hm)⟩
  | flags | syscalls | opcodes => exact AreBytes.perm hs hv
  | layout => exact ArePlaces.perm hs hv

end Orders

/-! ## Five tables -/

theorem toTables_of_validate {t : Tables} {b : Bindings} (h : t.validate = .ok b) :
    b.toTables = t := by
  unfold validate at h
  obtain ⟨R, hR, h⟩ := bind_eq_ok h
  obtain ⟨⟨registers, hreg⟩, hB, h⟩ := bind_eq_ok h
  simp only at h
  split at h
  case h_1 => cases h
  case h_2 =>
    obtain ⟨F, hF, h⟩ := bind_eq_ok h
    obtain ⟨flags, hf, h⟩ := bind_eq_ok h
    obtain ⟨S, hS, h⟩ := bind_eq_ok h
    obtain ⟨⟨syscalls, hsys⟩, hs, h⟩ := bind_eq_ok h
    obtain ⟨O, hO, h⟩ := bind_eq_ok h
    obtain ⟨⟨opcodes, hop⟩, ho, h⟩ := bind_eq_ok h
    obtain ⟨L, hL, h⟩ := bind_eq_ok h
    obtain ⟨layout, hl, h⟩ := bind_eq_ok h
    cases h
    unfold Bindings.toTables
    simp only
    rw [map_of_distinctBytes? hB, map_of_bytes? hf, map_of_distinctBytes? hs,
      map_of_distinctBytes? ho, (layout?_eq_ok_iff.1 hl).1, toNamed_of_named? hR,
      toNamed_of_named? hF, toNamed_of_named? hS, toNamed_of_named? hO, toNamed_of_named? hL]

theorem toTables_injective {b b' : Bindings} (h : b.toTables = b'.toTables) : b = b' := by
  obtain ⟨registers, flags, syscalls, opcodes, ⟨places, hp⟩, h1, h2, h3, h4⟩ := b
  obtain ⟨registers', flags', syscalls', opcodes', ⟨places', hp'⟩, h1', h2', h3', h4'⟩ := b'
  simp only [Bindings.toTables, Tables.mk.injEq] at h
  obtain ⟨hr, hf, hs, ho, hl⟩ := h
  obtain rfl := Table.map_byteAsValue_injective (Table.toNamed_injective hr)
  obtain rfl := Table.map_byteAsValue_injective (Table.toNamed_injective hf)
  obtain rfl := Table.map_byteAsValue_injective (Table.toNamed_injective hs)
  obtain rfl := Table.map_byteAsValue_injective (Table.toNamed_injective ho)
  obtain rfl := Table.toNamed_injective hl
  rfl

theorem byteOf?_byteAsValue (x : UInt8) : byteOf? (Bindings.byteAsValue x) = some x :=
  byte?_byteValue x

/-- Written bytes are bytes, and different ones where the table has different ones. -/
theorem areBytes_written {α : Type} [Enumerated α] {distinct : Bool} {T : Table α UInt8}
    (hd : distinct = true → T.Distinct) :
    AreBytes distinct (T.map fun _ => Bindings.byteAsValue).toNamed.values := by
  have hm : (T.values.map Bindings.byteAsValue).map byteOf? = T.values.map some := by
    rw [List.map_map]
    exact List.map_congr_left fun x _ => byteOf?_byteAsValue x
  rw [Table.values_toNamed, Table.values_map_byteAsValue]
  refine ⟨fun v hv => ?_, fun h => ?_⟩
  · obtain ⟨x, -, rfl⟩ := List.mem_map.1 hv
    rw [byteOf?_byteAsValue]
    rfl
  · rw [hm]
    exact (hd h).map fun _ _ he => Option.some.inj he

theorem accepts_toTables (b : Bindings) (sec : Section) : Accepts sec (b.toTables.of sec) := by
  cases sec with
  | registers =>
    refine ⟨Table.hasNames_toNamed _, areBytes_written fun _ => b.registers_distinct, ?_⟩
    intro v hv x hx
    rw [eq_byteAsValue_of_byteOf? hx] at hv
    change Bindings.byteAsValue x ∈
      (b.registers.map fun _ => Bindings.byteAsValue).toNamed.values at hv
    rw [Table.values_toNamed, Table.mem_values_iff] at hv
    obtain ⟨r, hr⟩ := hv
    rw [Table.get_map] at hr
    have hb : b.registers.get r = x := byteValue_injective (Value.int.inj hr)
    rw [← hb]
    exact b.registers_single r
  | flags => exact ⟨Table.hasNames_toNamed _, areBytes_written nofun⟩
  | syscalls => exact ⟨Table.hasNames_toNamed _, areBytes_written fun _ => b.syscalls_distinct⟩
  | opcodes => exact ⟨Table.hasNames_toNamed _, areBytes_written fun _ => b.opcodes_distinct⟩
  | layout =>
    refine ⟨Table.hasNames_toNamed _, ?_⟩
    change ArePlaces b.layout.table.toNamed.values
    rw [Table.values_toNamed]
    exact permutes_iff.1 b.layout.permutes

theorem validate_toTables (b : Bindings) : b.toTables.validate = .ok b := by
  obtain ⟨b', h⟩ := exists_validate_iff.2 (accepts_toTables b)
  rw [h, toTables_injective (toTables_of_validate h)]

/-- Five tables make an encoding exactly if they are its tables. -/
theorem validate_eq_ok_iff {t : Tables} {b : Bindings} : t.validate = .ok b ↔ b.toTables = t := by
  constructor
  · exact toTables_of_validate
  · rintro rfl
    exact validate_toTables b

end Tables

end Yan85
