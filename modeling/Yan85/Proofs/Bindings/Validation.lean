import Yan85.Bindings.Validate
import Yan85.Fault
import Yan85.Proofs.Results

/-! # Which tables make an encoding

* `Suits sec vs`: the values that a table may have, told without the checks that are made.
* `Accepts sec t`: a table with the names of its section and suitable values.
* `check`: the checks of one table. `validate_eq_error_iff` and `exists_validate_iff` say that an
  encoding is made of five tables that pass, and that the first one that does not decides.
* `Exhibits t sec v`: the checks of a table come to a value that their fault shows.
* `check_unwritable_iff`: the checks end without a message of their own where this value cannot be
  written.
-/

namespace Yan85
set_option autoImplicit false

/-- The names of a type. -/
def namesOf (α : Type) [Enumerated α] : List String := (Enumerated.all : List α).map Enumerated.name

/-- The names that a table binds. -/
def Section.names : Section → List String
  | .registers => namesOf Register
  | .flags => namesOf Flag
  | .syscalls => namesOf Syscall
  | .opcodes => namesOf Mnemonic
  | .layout => namesOf Field

/-- Whether a table binds different names to different bytes. -/
def Section.distinct : Section → Bool
  | .flags => false
  | _ => true

namespace Tables

/-- The table of a section. -/
def of (t : Tables) : Section → Ordered String Value
  | .registers => t.registers
  | .flags => t.flags
  | .syscalls => t.syscalls
  | .opcodes => t.opcodes
  | .layout => t.layout

/-! ## Suitable tables -/

/-- The names of a table are exactly these. -/
def HasNames (t : Ordered String Value) (names : List String) : Prop :=
  ∀ s, s ∈ t.keys ↔ s ∈ names

/-- The values are bytes, different ones where that matters. -/
structure AreBytes (distinct : Bool) (vs : List Value) : Prop where
  bytes : ∀ v ∈ vs, (byteOf? v).isSome
  distinct : distinct = true → (vs.map byteOf?).Nodup

/-- The values are equal to 0, 1 and 2 in some order, as far as there are values. -/
structure ArePlaces (vs : List Value) : Prop where
  places : ∀ v ∈ vs, v.smallIndex?.isSome
  distinct : (vs.map Value.smallIndex?).Nodup

/-- The values that the table of a section may have. -/
def Suits : Section → List Value → Prop
  | .registers, vs => AreBytes true vs ∧ ∀ v ∈ vs, ∀ x, byteOf? v = some x → SingleBit x
  | .flags, vs => AreBytes false vs
  | .syscalls, vs => AreBytes true vs
  | .opcodes, vs => AreBytes true vs
  | .layout, vs => ArePlaces vs

/-- A table with exactly the names of its section, and with suitable values. -/
structure Accepts (sec : Section) (t : Ordered String Value) : Prop where
  names : HasNames t sec.names
  suits : Suits sec t.values

/-- Of the values `vs`, taken one after the other, `v` is the first that may not stand there. -/
def StopsAt (distinct : Bool) (vs : List Value) (v : Value) : Prop :=
  ∃ before rest, vs = before ++ v :: rest ∧ AreBytes distinct before ∧
    ¬ AreBytes distinct (before ++ [v])

/-- The fault of a table shows the value `v`: one that is no byte behind suitable ones, or all the
values of a layout. -/
inductive Exhibits (t : Ordered String Value) : Section → Value → Prop
  | byte {sec : Section} {v : Value} (hs : sec ≠ .layout) (hn : HasNames t sec.names)
      (hv : StopsAt sec.distinct t.values v) (hb : byteOf? v = none) : Exhibits t sec v
  | places (hn : HasNames t Section.layout.names) (hp : ¬ ArePlaces t.values) :
      Exhibits t .layout (.list t.values)

/-- The faults of a table that is not accepted. -/
inductive Flawed (t : Ordered String Value) (sec : Section) : BindingFault → Prop
  | refused {f : BindingFault} (hn : ¬ Accepts sec t) (hx : ∀ v, ¬ Exhibits t sec v)
      (hf : f.kind = .constants) : Flawed t sec f
  | exhibited {v : Value} {f : BindingFault} (hn : ¬ Accepts sec t) (hx : Exhibits t sec v)
      (hf : f.kind = .constants) : Flawed t sec (.ifWritable v f)
  | unordered (hn : ¬ Accepts sec t) (hs : sortable t.values = false) : Flawed t sec .unordered

/-! ## Names -/

section Names

variable {α : Type} [Enumerated α] {sec : Section} {t : Ordered String Value} {T : Table α Value}
  {f : BindingFault}

theorem mem_namesOf_iff {s : String} :
    s ∈ namesOf α ↔ (Enumerated.ofName? s : Option α).isSome := by
  unfold namesOf
  rw [List.mem_map, Option.isSome_iff_exists]
  constructor
  · rintro ⟨a, -, rfl⟩
    exact ⟨a, Enumerated.ofName?_name a⟩
  · rintro ⟨a, ha⟩
    exact ⟨a, Enumerated.mem_all a, Enumerated.name_of_ofName? ha⟩

theorem missing_eq_nil_iff : missing α t = [] ↔ ∀ s ∈ namesOf α, s ∈ t.keys := by
  unfold missing namesOf
  rw [List.filter_eq_nil_iff]
  simp

theorem unknown_eq_nil_iff : unknown α t = [] ↔ ∀ s ∈ t.keys, s ∈ namesOf α := by
  unfold unknown
  rw [List.filter_eq_nil_iff]
  simp only [mem_namesOf_iff, Option.isNone_iff_eq_none, Option.isSome_iff_ne_none, ne_eq]

theorem values_members (h : ∀ s ∈ t.keys, s ∈ namesOf α) :
    (t.entries.filterMap (member? (α := α))).map Prod.snd = t.values := by
  unfold Ordered.keys at h
  unfold Ordered.values
  generalize t.entries = es at h
  induction es with
  | nil => rfl
  | cons e es ih =>
    rw [List.map_cons, List.forall_mem_cons] at h
    obtain ⟨a, ha⟩ := Option.isSome_iff_exists.1 (mem_namesOf_iff.1 h.1)
    have he : member? (α := α) e = some (a, e.2) := by rw [member?, ha, Option.map_some]
    rw [List.filterMap_cons_some he, List.map_cons, List.map_cons, ih h.2]

theorem named?_eq_ok (h : named? α sec t = .ok T) :
    HasNames t (namesOf α) ∧ T.values = t.values := by
  unfold named? at h
  split at h
  case isTrue hm =>
    split at h
    case isTrue hu =>
      cases h
      have hk := unknown_eq_nil_iff.1 hu
      exact ⟨fun s => ⟨hk s, missing_eq_nil_iff.1 hm s⟩, values_members hk⟩
    case isFalse => cases h
  case isFalse => cases h

theorem named?_eq_error (h : named? α sec t = .error f) :
    ¬ HasNames t (namesOf α) ∧ f.kind = .constants := by
  unfold named? at h
  split at h
  case isTrue hm =>
    split at h
    case isTrue => cases h
    case isFalse hu =>
      cases h
      exact ⟨fun hn => hu (unknown_eq_nil_iff.2 fun s hs => (hn s).1 hs), rfl⟩
  case isFalse hm =>
    cases h
    exact ⟨fun hn => hm (missing_eq_nil_iff.2 fun s hs => (hn s).2 hs), rfl⟩

end Names

/-! ## Bytes -/

section Bytes

variable {α : Type} [Enumerated α] {sec : Section} {distinct : Bool} {T : Table α Value}
  {f : BindingFault}

theorem areBytes_nil (distinct : Bool) : AreBytes distinct [] :=
  ⟨fun _ h => absurd h List.not_mem_nil, fun _ => List.nodup_nil⟩

theorem areBytes_concat_iff {vs : List Value} {v : Value} :
    AreBytes distinct (vs ++ [v]) ↔ AreBytes distinct vs ∧
      ∃ x, byteOf? v = some x ∧ (distinct = true → some x ∉ vs.map byteOf?) := by
  constructor
  · rintro ⟨hb, hd⟩
    obtain ⟨x, hx⟩ := Option.isSome_iff_exists.1 (hb v (by simp))
    rw [List.map_append, List.map_singleton, hx] at hd
    refine ⟨⟨fun w hw => hb w (List.mem_append_left _ hw), fun h => ?_⟩, x, hx, fun h => ?_⟩
    · exact (List.nodup_append.1 (hd h)).1
    · intro hm
      exact (List.nodup_append.1 (hd h)).2.2 _ hm _ (List.mem_singleton_self _) rfl
  · rintro ⟨⟨hb, hd⟩, x, hx, hn⟩
    constructor
    · intro w hw
      obtain hw | hw := List.mem_append.1 hw
      · exact hb w hw
      · obtain rfl := List.mem_singleton.1 hw
        rw [hx]
        rfl
    · intro h
      rw [List.map_append, List.map_singleton, hx]
      refine List.nodup_append.2 ⟨hd h, by simp, ?_⟩
      rintro y hy z hz rfl
      rw [List.mem_singleton.1 hz] at hy
      exact hn h hy

/-- The entries that have been seen are those of the values `vs`. -/
def Seen (distinct : Bool) (vs : List Value) (seen : List (α × UInt8)) : Prop :=
  AreBytes distinct vs ∧ vs.map byteOf? = seen.map fun e => some e.2

theorem bytesAfter_cons_cases {vs : List Value} {seen : List (α × UInt8)}
    (hs : Seen distinct vs seen) (a : α) (v : Value) (es : List (α × Value)) :
    (byteOf? v = none ∧ bytesAfter sec distinct seen ((a, v) :: es) =
        .error (.ifWritable v (.notByte sec (Enumerated.name a) v))) ∨
    (byteOf? v ≠ none ∧ ¬ AreBytes distinct (vs ++ [v]) ∧ ∃ f, f.kind = .constants ∧
      bytesAfter sec distinct seen ((a, v) :: es) = .error f) ∨
    ∃ seen', Seen distinct (vs ++ [v]) seen' ∧
      bytesAfter sec distinct seen ((a, v) :: es) = bytesAfter sec distinct seen' es := by
  obtain ⟨hb, hm⟩ := hs
  have hmem : ∀ x, some x ∈ vs.map byteOf? ↔ ∃ e ∈ seen, e.2 = x := by
    intro x
    rw [hm]
    simp
  cases hv : byteOf? v with
  | none =>
    refine .inl ⟨rfl, ?_⟩
    simp only [bytesAfter, hv]
  | some x =>
    refine .inr ?_
    -- Where bytes may repeat, nothing is looked for, and the first case does not occur.
    cases hd : (if distinct then seen.find? fun e => e.2 == x else none) with
    | some e =>
      refine .inl ⟨by simp, ?_, .sharedByte sec (Enumerated.name a) (Enumerated.name e.1) x, rfl,
        ?_⟩
      · rw [areBytes_concat_iff]
        rintro ⟨-, y, hy, hn⟩
        cases hv.symm.trans hy
        cases distinct with
        | false => cases hd
        | true =>
          have hf : (seen.find? fun e => e.2 == x) = some e := hd
          have he := List.find?_some hf
          exact hn rfl ((hmem x).2 ⟨e, List.mem_of_find?_eq_some hf, beq_iff_eq.1 he⟩)
      · simp only [bytesAfter, hv, hd]
    | none =>
      refine .inr ⟨seen ++ [(a, x)], ⟨areBytes_concat_iff.2 ⟨hb, x, hv, ?_⟩, ?_⟩, ?_⟩
      · rintro rfl hx
        obtain ⟨e, he, hex⟩ := (hmem x).1 hx
        exact List.find?_eq_none.1 hd e he (beq_iff_eq.2 hex)
      · rw [List.map_append, List.map_append, hm, List.map_singleton, hv]
        rfl
      · simp only [bytesAfter, hv, hd]

theorem AreBytes.of_append {vs ws : List Value} (h : AreBytes distinct (vs ++ ws)) :
    AreBytes distinct vs := by
  refine ⟨fun v hv => h.bytes v (List.mem_append_left ws hv), fun hd => ?_⟩
  have hn := h.distinct hd
  rw [List.map_append] at hn
  exact (List.nodup_append.1 hn).1

theorem AreBytes.not_stopsAt {vs : List Value} {v : Value} (h : AreBytes distinct vs) :
    ¬ StopsAt distinct vs v := by
  rintro ⟨before, rest, rfl, -, hn⟩
  rw [List.append_cons] at h
  exact hn h.of_append

theorem StopsAt.unique {vs : List Value} {v w : Value} (hv : StopsAt distinct vs v)
    (hw : StopsAt distinct vs w) : v = w := by
  obtain ⟨before, rest, rfl, hb, hn⟩ := hv
  obtain ⟨before', rest', he, hb', hn'⟩ := hw
  -- Unless they are the same place, one of the two is among the suitable values before the other.
  obtain ⟨l, hl, hr⟩ | ⟨l, hl, hr⟩ := List.append_eq_append_iff.1 he
  · cases l with
    | nil =>
      cases hr
      rfl
    | cons y l =>
      cases hr
      rw [hl, List.append_cons] at hb'
      exact absurd hb'.of_append hn
  · cases l with
    | nil =>
      cases hr
      rfl
    | cons y l =>
      cases hr
      rw [hl, List.append_cons] at hb
      exact absurd hb.of_append hn'

/-- The entries pass, or the first of them that may not stand there decides. -/
theorem bytesAfter_cases (sec : Section) (es : List (α × Value)) {vs : List Value}
    {seen : List (α × UInt8)} (hs : Seen distinct vs seen) :
    (∃ r, Seen distinct (vs ++ es.map Prod.snd) r ∧ bytesAfter sec distinct seen es = .ok r) ∨
    ∃ v f, StopsAt distinct (vs ++ es.map Prod.snd) v ∧ f.kind = .constants ∧
      bytesAfter sec distinct seen es =
        .error (if byteOf? v = none then .ifWritable v f else f) := by
  -- The values `vs` grow with the entries that are seen, so that `vs ++ es` stays the same list.
  induction es generalizing vs seen with
  | nil =>
    rw [List.map_nil, List.append_nil]
    exact .inl ⟨seen, hs, rfl⟩
  | cons e es ih =>
    obtain ⟨a, v⟩ := e
    obtain ⟨hv, he⟩ | ⟨hv, hn, f, hf, he⟩ | ⟨seen', hs', he⟩ := bytesAfter_cons_cases hs a v es
    · have hn : ¬ AreBytes distinct (vs ++ [v]) := fun h => by
        have hb := h.bytes v (by simp)
        rw [hv] at hb
        cases hb
      refine .inr ⟨v, .notByte sec (Enumerated.name a) v, ⟨vs, _, rfl, hs.1, hn⟩, rfl, ?_⟩
      rw [if_pos hv, he]
    · refine .inr ⟨v, f, ⟨vs, _, rfl, hs.1, hn⟩, hf, ?_⟩
      rw [if_neg hv, he]
    · rw [he, List.map_cons, List.append_cons]
      exact ih hs'

theorem bytes?_eq_error_iff :
    bytes? sec T = .error f ↔ bytesAfter sec false [] T.entries = .error f := by
  unfold bytes?
  split
  case h_1 h => rw [h, Except.error.injEq, Except.error.injEq]
  case h_2 h => exact ⟨nofun, fun hf => nomatch h.symm.trans hf⟩

theorem distinctBytes?_eq_error_iff :
    distinctBytes? sec T = .error f ↔ bytesAfter sec true [] T.entries = .error f := by
  unfold distinctBytes?
  split
  case h_1 h => rw [h, Except.error.injEq, Except.error.injEq]
  case h_2 h => exact ⟨nofun, fun hf => nomatch h.symm.trans hf⟩

theorem entries_of_distinctBytes? {B : { t : Table α UInt8 // t.Distinct }}
    (h : distinctBytes? sec T = .ok B) : bytesAfter sec true [] T.entries = .ok B.1.entries := by
  unfold distinctBytes? at h
  split at h
  case h_1 => cases h
  case h_2 hr =>
    cases h
    exact hr

end Bytes

/-! ## Places -/

section Places

variable {T : Table Field Value} {f : BindingFault}

theorem values_eq_map_get {α β : Type} [Enumerated α] [DecidableEq α] (t : Table α β) :
    t.values = t.keys.map t.get := by
  unfold Ordered.values Ordered.keys
  rw [List.map_map]
  exact List.map_congr_left fun e he => Table.eq_get_of_mem he

theorem perm_keys {α β : Type} [Enumerated α] (t : Table α β) :
    (Enumerated.all : List α).Perm t.keys :=
  (List.perm_ext_iff_of_nodup Enumerated.all_nodup t.keys_nodup).2 fun a =>
    ⟨fun _ => t.complete a, fun _ => Enumerated.mem_all a⟩

theorem permutes_iff : Permutes T ↔ ArePlaces T.values := by
  have hk : ((Enumerated.all : List Field).map T.get).Perm T.values := by
    rw [values_eq_map_get]
    exact (perm_keys T).map T.get
  have hn := (hk.map Value.smallIndex?).nodup_iff
  rw [List.map_map] at hn
  constructor
  · rintro ⟨hp, hd⟩
    refine ⟨fun v hv => ?_, hn.1 hd⟩
    obtain ⟨a, rfl⟩ := Table.mem_values_iff.1 hv
    exact hp a
  · rintro ⟨hp, hd⟩
    exact ⟨fun a => hp _ (Table.mem_values_iff.2 ⟨a, rfl⟩), hn.2 hd⟩

theorem layout?_eq_ok_iff {l : Layout} :
    layout? T = .ok l ↔ l.table = T ∧ ArePlaces T.values := by
  unfold layout?
  by_cases h : Permutes T
  · rw [dif_pos h]
    constructor
    · intro hl
      cases hl
      exact ⟨rfl, permutes_iff.1 h⟩
    · rintro ⟨rfl, -⟩
      rfl
  · rw [dif_neg h]
    constructor
    · intro hl
      split at hl <;> cases hl
    · rintro ⟨-, hp⟩
      exact absurd (permutes_iff.2 hp) h

theorem layout?_eq_error (h : layout? T = .error f) :
    ¬ ArePlaces T.values ∧
      (sortable T.values = true ∧ (∃ es, f = .ifWritable (.list T.values) (.notPermutation es)) ∨
        sortable T.values = false ∧ f = .unordered) := by
  unfold layout? at h
  by_cases hp : Permutes T
  · rw [dif_pos hp] at h
    cases h
  · rw [dif_neg hp] at h
    refine ⟨fun hn => hp (permutes_iff.2 hn), ?_⟩
    cases hs : sortable T.values with
    | true =>
      rw [hs, if_pos rfl] at h
      cases h
      exact .inl ⟨rfl, _, rfl⟩
    | false =>
      rw [hs, if_neg (by decide)] at h
      cases h
      exact .inr ⟨rfl, rfl⟩

end Places

/-! ## One table -/

section Check

variable {t : Ordered String Value} {sec : Section} {f : BindingFault}

/-- The checks of a table of bytes. -/
def checkBytes (α : Type) [Enumerated α] (sec : Section) (t : Ordered String Value) :
    Except BindingFault (Table α UInt8) := do
  bytes? sec (← named? α sec t)

/-- The checks of a table of distinct bytes. -/
def checkDistinct (α : Type) [Enumerated α] (sec : Section) (t : Ordered String Value) :
    Except BindingFault { t : Table α UInt8 // t.Distinct } := do
  distinctBytes? sec (← named? α sec t)

/-- The last check of the table of registers. -/
def checkSingle (B : Table Register UInt8) : Except BindingFault Unit :=
  match notSingle? B with
  | some (r, x) => .error (.notSingleBit (Enumerated.name r) x)
  | none => .ok ()

/-- The checks of the table of registers. -/
def checkRegisters (t : Ordered String Value) : Except BindingFault Unit := do
  checkSingle (← checkDistinct Register .registers t).1

/-- The checks of the table of places. -/
def checkLayout (t : Ordered String Value) : Except BindingFault Layout := do
  layout? (← named? Field .layout t)

/-- The checks of one table. -/
def check (t : Tables) : Section → Except BindingFault Unit
  | .registers => checkRegisters t.registers
  | .flags => (fun _ => ()) <$> checkBytes Flag .flags t.flags
  | .syscalls => (fun _ => ()) <$> checkDistinct Syscall .syscalls t.syscalls
  | .opcodes => (fun _ => ()) <$> checkDistinct Mnemonic .opcodes t.opcodes
  | .layout => (fun _ => ()) <$> checkLayout t.layout

theorem Suits.areBytes {vs : List Value} (hs : sec ≠ .layout) (h : Suits sec vs) :
    AreBytes sec.distinct vs := by
  cases sec with
  | registers => exact h.1
  | flags | syscalls | opcodes => exact h
  | layout => exact absurd rfl hs

theorem Exhibits.names {v : Value} (h : Exhibits t sec v) : HasNames t sec.names := by
  cases h with
  | byte _ hn => exact hn
  | places hn => exact hn

theorem Exhibits.unique {v w : Value} (h : Exhibits t sec v) (h' : Exhibits t sec w) : v = w := by
  cases h with
  | byte hs _ hv =>
    cases h' with
    | byte _ _ hw => exact hv.unique hw
    | places => exact absurd rfl hs
  | places =>
    cases h' with
    | byte hs => exact absurd rfl hs
    | places => rfl

theorem flawed_of_names (hn : ¬ HasNames t sec.names) (hf : f.kind = .constants) :
    Flawed t sec f :=
  .refused (fun h => hn h.names) (fun _ h => hn h.names) hf

theorem flawed_of_stopsAt {v : Value} (hs : sec ≠ .layout) (hn : HasNames t sec.names)
    (hv : StopsAt sec.distinct t.values v) (hf : f.kind = .constants) :
    Flawed t sec (if byteOf? v = none then .ifWritable v f else f) := by
  have ha : ¬ Accepts sec t := fun h => (h.suits.areBytes hs).not_stopsAt hv
  by_cases hb : byteOf? v = none
  · rw [if_pos hb]
    exact .exhibited ha (.byte hs hn hv hb) hf
  · rw [if_neg hb]
    refine .refused ha (fun w hw => ?_) hf
    cases hw with
    | byte _ _ hw hwb =>
      obtain rfl := hv.unique hw
      exact hb hwb
    | places => exact hs rfl

/-- The entries of a table of bytes are seen, or the table is flawed. -/
theorem entries_cases {α : Type} [Enumerated α] (hα : sec.names = namesOf α) (hs : sec ≠ .layout) :
    (∃ T r, named? α sec t = .ok T ∧ bytesAfter sec sec.distinct [] T.entries = .ok r ∧
      HasNames t sec.names ∧ Seen sec.distinct t.values r) ∨
    ∃ f, Flawed t sec f ∧ (named? α sec t = .error f ∨
      ∃ T, named? α sec t = .ok T ∧ bytesAfter sec sec.distinct [] T.entries = .error f) := by
  cases hT : named? α sec t with
  | error f =>
    obtain ⟨hn, hf⟩ := named?_eq_error hT
    rw [← hα] at hn
    exact .inr ⟨f, flawed_of_names hn hf, .inl rfl⟩
  | ok T =>
    obtain ⟨hn, hv⟩ := named?_eq_ok hT
    rw [← hα] at hn
    have hv' : [] ++ T.entries.map Prod.snd = t.values := hv
    have hseen : Seen sec.distinct [] ([] : List (α × UInt8)) := ⟨areBytes_nil _, rfl⟩
    obtain ⟨r, hr, he⟩ | ⟨v, f, hstop, hf, he⟩ := bytesAfter_cases sec T.entries hseen
    · rw [hv'] at hr
      exact .inl ⟨T, r, rfl, he, hn, hr⟩
    · rw [hv'] at hstop
      exact .inr ⟨_, flawed_of_stopsAt hs hn hstop hf, .inr ⟨T, rfl, he⟩⟩

theorem checkDistinct_cases {α : Type} [Enumerated α] (hα : sec.names = namesOf α)
    (hs : sec ≠ .layout) (hd : sec.distinct = true) :
    (∃ B, checkDistinct α sec t = .ok B ∧ HasNames t sec.names ∧
      Seen true t.values B.1.entries) ∨
    ∃ f, Flawed t sec f ∧ checkDistinct α sec t = .error f := by
  unfold checkDistinct
  obtain ⟨T, r, hT, hr, hn, hv⟩ | ⟨f, hf, hT | ⟨T, hT, hr⟩⟩ := entries_cases (t := t) hα hs
  · rw [hd] at hr hv
    rw [hT]
    cases hB : distinctBytes? sec T with
    | error f => exact nomatch hr.symm.trans (distinctBytes?_eq_error_iff.1 hB)
    | ok B =>
      have he := entries_of_distinctBytes? hB
      cases hr.symm.trans he
      exact .inl ⟨B, hB, hn, hv⟩
  · rw [hT]
    exact .inr ⟨f, hf, rfl⟩
  · rw [hd] at hr
    rw [hT]
    exact .inr ⟨f, hf, distinctBytes?_eq_error_iff.2 hr⟩

theorem checkBytes_cases {α : Type} [Enumerated α] (hα : sec.names = namesOf α)
    (hs : sec ≠ .layout) (hd : sec.distinct = false) :
    (∃ B, checkBytes α sec t = .ok B ∧ HasNames t sec.names ∧ AreBytes false t.values) ∨
    ∃ f, Flawed t sec f ∧ checkBytes α sec t = .error f := by
  unfold checkBytes
  obtain ⟨T, r, hT, hr, hn, hv⟩ | ⟨f, hf, hT | ⟨T, hT, hr⟩⟩ := entries_cases (t := t) hα hs
  · rw [hd] at hr hv
    rw [hT]
    cases hB : bytes? sec T with
    | error f => exact nomatch hr.symm.trans (bytes?_eq_error_iff.1 hB)
    | ok B => exact .inl ⟨B, hB, hn, hv.1⟩
  · rw [hT]
    exact .inr ⟨f, hf, rfl⟩
  · rw [hd] at hr
    rw [hT]
    exact .inr ⟨f, hf, bytes?_eq_error_iff.2 hr⟩

theorem checkRegisters_cases :
    (Accepts .registers t ∧ checkRegisters t = .ok ()) ∨
    ∃ f, Flawed t .registers f ∧ checkRegisters t = .error f := by
  unfold checkRegisters
  obtain ⟨B, hB, hn, hb, hm⟩ | ⟨f, hf, hB⟩ := checkDistinct_cases (α := Register) (t := t) rfl
    (by decide : Section.registers ≠ .layout) rfl
  · rw [hB]
    have hmem : ∀ x, (∃ v ∈ t.values, byteOf? v = some x) ↔ ∃ e ∈ B.1.entries, e.2 = x := by
      intro x
      have h : some x ∈ t.values.map byteOf? ↔ some x ∈ B.1.entries.map fun e => some e.2 := by
        rw [hm]
      simpa only [List.mem_map, Option.some.injEq] using h
    cases hs : notSingle? B.1 with
    | none =>
      refine .inl ⟨⟨hn, hb, fun v hv x hx => ?_⟩, ?_⟩
      · obtain ⟨e, he, rfl⟩ := (hmem x).1 ⟨v, hv, hx⟩
        have h := List.find?_eq_none.1 hs e he
        simpa using h
      · change checkSingle B.1 = .ok ()
        rw [checkSingle, hs]
    | some e =>
      obtain ⟨r, x⟩ := e
      refine .inr ⟨.notSingleBit (Enumerated.name r) x,
        .refused (fun h => ?_) (fun v hv => ?_) rfl, ?_⟩
      · have hx : ¬ SingleBit x := by simpa using List.find?_some hs
        obtain ⟨v, hv, hvx⟩ := (hmem x).2 ⟨_, List.mem_of_find?_eq_some hs, rfl⟩
        exact hx (h.suits.2 v hv x hvx)
      · cases hv with
        | byte _ _ hv => exact hb.not_stopsAt hv
      · change checkSingle B.1 = _
        rw [checkSingle, hs]
  · rw [hB]
    exact .inr ⟨f, hf, rfl⟩

theorem checkLayout_cases :
    (Accepts .layout t ∧ ∃ l, checkLayout t = .ok l) ∨
    ∃ f, Flawed t .layout f ∧ checkLayout t = .error f := by
  unfold checkLayout
  cases hT : named? Field .layout t with
  | error f =>
    obtain ⟨hn, hf⟩ := named?_eq_error hT
    exact .inr ⟨f, flawed_of_names hn hf, rfl⟩
  | ok T =>
    obtain ⟨hn, hv⟩ := named?_eq_ok hT
    cases hl : layout? T with
    | ok l =>
      have hp := (layout?_eq_ok_iff.1 hl).2
      rw [hv] at hp
      exact .inl ⟨⟨hn, hp⟩, l, hl⟩
    | error f =>
      obtain ⟨hp, hf⟩ := layout?_eq_error hl
      rw [hv] at hp hf
      have ha : ¬ Accepts .layout t := fun h => hp h.suits
      obtain ⟨-, es, rfl⟩ | ⟨hs, rfl⟩ := hf
      · exact .inr ⟨_, .exhibited ha (.places hn hp) rfl, hl⟩
      · exact .inr ⟨_, .unordered ha hs, hl⟩

/-- The checks of a table accept it, or find a flaw. -/
theorem check_cases (t : Tables) (sec : Section) :
    (Accepts sec (t.of sec) ∧ t.check sec = .ok ()) ∨
    ∃ f, Flawed (t.of sec) sec f ∧ t.check sec = .error f := by
  have hok {β : Type} {x : Except BindingFault β} {y : β} (hx : x = .ok y) :
      (fun _ => ()) <$> x = .ok () := by
    rw [hx]
    rfl
  have herror {β : Type} {x : Except BindingFault β} {f : BindingFault} (hx : x = .error f) :
      (fun _ => ()) <$> x = .error f := by
    rw [hx]
    rfl
  cases sec with
  | registers => exact checkRegisters_cases
  | flags =>
    obtain ⟨B, hB, hn, hv⟩ | ⟨f, hf, hB⟩ := checkBytes_cases (α := Flag) (t := t.flags) rfl
      (by decide : Section.flags ≠ .layout) rfl
    · exact .inl ⟨⟨hn, hv⟩, hok hB⟩
    · exact .inr ⟨f, hf, herror hB⟩
  | syscalls =>
    obtain ⟨B, hB, hn, hv, -⟩ | ⟨f, hf, hB⟩ := checkDistinct_cases (α := Syscall) (t := t.syscalls)
      rfl (by decide : Section.syscalls ≠ .layout) rfl
    · exact .inl ⟨⟨hn, hv⟩, hok hB⟩
    · exact .inr ⟨f, hf, herror hB⟩
  | opcodes =>
    obtain ⟨B, hB, hn, hv, -⟩ | ⟨f, hf, hB⟩ := checkDistinct_cases (α := Mnemonic) (t := t.opcodes)
      rfl (by decide : Section.opcodes ≠ .layout) rfl
    · exact .inl ⟨⟨hn, hv⟩, hok hB⟩
    · exact .inr ⟨f, hf, herror hB⟩
  | layout =>
    obtain ⟨ha, l, hl⟩ | ⟨f, hf, hl⟩ := checkLayout_cases (t := t.layout)
    · exact .inl ⟨ha, hok hl⟩
    · exact .inr ⟨f, hf, herror hl⟩

theorem check_eq_ok_iff {t : Tables} : t.check sec = .ok () ↔ Accepts sec (t.of sec) := by
  obtain ⟨ha, hc⟩ | ⟨f, hf, hc⟩ := check_cases t sec
  · exact ⟨fun _ => ha, fun _ => hc⟩
  · have hn : ¬ Accepts sec (t.of sec) := by
      cases hf with
      | refused hn | exhibited hn | unordered hn => exact hn
    rw [hc]
    exact ⟨nofun, fun ha => absurd ha hn⟩

theorem flawed_of_check {t : Tables} (h : t.check sec = .error f) : Flawed (t.of sec) sec f := by
  obtain ⟨-, hc⟩ | ⟨g, hg, hc⟩ := check_cases t sec
  · exact nomatch h.symm.trans hc
  · cases h.symm.trans hc
    exact hg

end Check

/-! ## Values that cannot be written -/

section Unwritable

variable {t : Ordered String Value} {sec : Section} {v : Value} {f : BindingFault}

theorem Exhibits.not_accepts (h : Exhibits t sec v) : ¬ Accepts sec t := by
  intro ha
  cases h with
  | byte hs _ hv => exact (ha.suits.areBytes hs).not_stopsAt hv
  | places _ hp => exact hp ha.suits

theorem ifWritable_eq_unwritable_iff (hf : f.kind = .constants) :
    BindingFault.ifWritable v f = .unwritable ↔ v.writable = false := by
  unfold BindingFault.ifWritable
  cases v.writable with
  | true =>
    rw [if_pos rfl]
    constructor
    · rintro rfl
      cases hf
    · intro h
      cases h
  | false => exact ⟨fun _ => rfl, fun _ => rfl⟩

theorem ifWritable_cases (hf : f.kind = .constants) (v : Value) :
    (BindingFault.ifWritable v f).kind = .constants ∨
      BindingFault.ifWritable v f = .unwritable := by
  unfold BindingFault.ifWritable
  split
  · exact .inl hf
  · exact .inr rfl

theorem Flawed.kind (h : Flawed t sec f) (hs : sortable t.values = true) :
    f.kind = .constants ∨ f = .unwritable := by
  cases h with
  | refused _ _ hf => exact .inl hf
  | exhibited _ _ hf => exact ifWritable_cases hf _
  | unordered _ hn => exact absurd (hs.symm.trans hn) (by decide)

theorem check_unwritable_iff {t : Tables} (hs : sortable (t.of sec).values = true) :
    t.check sec = .error .unwritable ↔ ∃ v, Exhibits (t.of sec) sec v ∧ v.writable = false := by
  constructor
  · intro h
    have hf := flawed_of_check h
    generalize hu : BindingFault.unwritable = u at hf
    cases hf with
    | refused _ _ hf =>
      rw [← hu] at hf
      cases hf
    | exhibited _ hx hf => exact ⟨_, hx, (ifWritable_eq_unwritable_iff hf).1 hu.symm⟩
    | unordered => cases hu
  · rintro ⟨v, hx, hv⟩
    obtain ⟨ha, -⟩ | ⟨f, hf, hc⟩ := check_cases t sec
    · exact absurd ha hx.not_accepts
    · rw [hc]
      cases hf with
      | refused _ hn => exact absurd hx (hn v)
      | exhibited _ hx' hf =>
        obtain rfl := hx.unique hx'
        rw [(ifWritable_eq_unwritable_iff hf).2 hv]
      | unordered _ hn => exact absurd (hs.symm.trans hn) (by decide)

end Unwritable

/-! ## Five tables -/

theorem all_sections :
    (Enumerated.all : List Section) = [.registers, .flags, .syscalls, .opcodes, .layout] := rfl

theorem validate_map (t : Tables) :
    (fun _ => ()) <$> t.validate =
      (fun _ => ()) <$> (Enumerated.all : List Section).mapM t.check := by
  -- What the checks build is forgotten, and then both sides make the same checks in the same order.
  rw [all_sections]
  simp only [List.mapM_cons, List.mapM_nil, check, checkRegisters, checkSingle, checkLayout,
    checkBytes, checkDistinct, validate, map_bind, bind_assoc, pure_bind, map_pure]
  refine bind_congr fun R => bind_congr fun B => ?_
  split
  case h_1 h =>
    simp only [h]
    rfl
  case h_2 h =>
    simp only [h, ← bind_pure_comp, bind_assoc, pure_bind]
    rfl

/-- The first table with a flaw decides. -/
theorem validate_eq_error_iff {t : Tables} {f : BindingFault} :
    t.validate = .error f ↔
      ∃ sec, ComesTo (fun s => Accepts s (t.of s)) Enumerated.all sec ∧ t.check sec = .error f := by
  rw [← map_eq_error_iff (g := fun _ => ()), validate_map, map_eq_error_iff, mapM_eq_error_iff]
  simp only [← check_eq_ok_iff]
  have hu : ∀ s, (∃ r, t.check s = .ok r) ↔ t.check s = .ok () :=
    fun s => ⟨fun ⟨_, h⟩ => h, fun h => ⟨(), h⟩⟩
  simp only [hu]

/-- Five tables make an encoding if each of them is accepted. -/
theorem exists_validate_iff {t : Tables} :
    (∃ b, t.validate = .ok b) ↔ ∀ sec, Accepts sec (t.of sec) := by
  rw [← exists_map_iff (g := fun _ => ()), validate_map, exists_map_iff, exists_mapM_iff]
  simp only [← check_eq_ok_iff]
  exact ⟨fun h s => (h s (Enumerated.mem_all s)).elim fun _ hs => hs, fun h s _ => ⟨(), h s⟩⟩

/-- The values of the places come into the encoding as they are. -/
theorem values_of_validate {t : Tables} {b : Bindings} (h : t.validate = .ok b) :
    b.layout.table.values = t.layout.values := by
  unfold validate at h
  obtain ⟨R, -, h⟩ := bind_eq_ok h
  obtain ⟨⟨B, hB⟩, -, h⟩ := bind_eq_ok h
  simp only at h
  split at h
  · cases h
  · obtain ⟨F, -, h⟩ := bind_eq_ok h
    obtain ⟨flags, -, h⟩ := bind_eq_ok h
    obtain ⟨S, -, h⟩ := bind_eq_ok h
    obtain ⟨⟨syscalls, hsys⟩, -, h⟩ := bind_eq_ok h
    obtain ⟨O, -, h⟩ := bind_eq_ok h
    obtain ⟨⟨opcodes, hop⟩, -, h⟩ := bind_eq_ok h
    obtain ⟨L, hL, h⟩ := bind_eq_ok h
    obtain ⟨layout, hl, h⟩ := bind_eq_ok h
    cases h
    have hn := (named?_eq_ok hL).2
    rw [(layout?_eq_ok_iff.1 hl).1, hn]

end Tables

end Yan85
