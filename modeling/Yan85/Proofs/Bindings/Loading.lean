import Yan85.Bindings.Read
import Yan85.Proofs.Bindings.Validation

/-! # Where the loading of an encoding fails without a message of its own

* `IsEntry`, `IsTable`: what can be read as an entry and as a table, told without the reading.
* `Shows w i v`: loading comes to a place where `v` has to be written as a text: the key of an
  entry, a content that is no number, or what a flawed table exhibits.
* `load_unwritable_iff`: whole numbers beyond the limit for decimal texts that stand there are the
  only reason for a fault of another kind.
* `kind_of_ofValue_iff`: the same of the encoding that a value describes.
-/

namespace Yan85
set_option autoImplicit false

namespace Tables

variable {ι : Type} {w : View ι} {i : ι}

/-! ## What can be read -/

/-- An entry whose key can be written and whose content is a number. -/
def IsEntry (w : View ι) (e : Value × ι) : Prop :=
  e.1.writable = true ∧ ∃ k, integer? (w.value e.2) = .ok k

/-- What stands under the name of a table. -/
def contentAt (w : View ι) (entries : List (Value × ι)) (sec : Section) : Option (Opened ι) :=
  (contentOf entries (Enumerated.name sec)).map w.opened

/-- Nothing, null, or a map of entries. -/
def IsTable (w : View ι) : Option (Opened ι) → Prop
  | none => True
  | some .null => True
  | some (.map es) => ∀ e ∈ es, IsEntry w e
  | some (.other _) => False

/-- Loading what stands at `i` comes to a place where the value `v` has to be written as a text. -/
inductive Shows (w : View ι) (i : ι) : Value → Prop
  | key {entries es : List (Value × ι)} {sec : Section} {e : Value × ι}
      (hi : w.opened i = .map entries)
      (hs : ComesTo (fun s => IsTable w (contentAt w entries s)) Enumerated.all sec)
      (hc : contentAt w entries sec = some (.map es)) (he : ComesTo (IsEntry w) es e) :
      Shows w i e.1
  | content {entries es : List (Value × ι)} {sec : Section} {e : Value × ι}
      (hi : w.opened i = .map entries)
      (hs : ComesTo (fun s => IsTable w (contentAt w entries s)) Enumerated.all sec)
      (hc : contentAt w entries sec = some (.map es)) (he : ComesTo (IsEntry w) es e)
      (hk : e.1.writable = true) (hn : ∀ k, integer? (w.value e.2) ≠ .ok k) :
      Shows w i (w.value e.2)
  | exhibit {t : Tables} {sec : Section} {v : Value} (ht : ofView w i = .ok t)
      (hs : ComesTo (fun s => Accepts s (t.of s)) Enumerated.all sec)
      (hv : Exhibits (t.of sec) sec v) : Shows w i v

/-! ## Entries -/

section Entries

variable {e : Value × ι} {es : List (Value × ι)} {sec : Section} {f : BindingFault}

theorem integer?_eq_error {v : Value} (h : integer? v = .error f) :
    ∃ g, g.kind = .constants ∧ f = .ifWritable v g := by
  cases v with
  | int k => cases h
  | text s =>
    simp only [integer?] at h
    split at h
    case h_1 => cases h
    case h_2 =>
      cases h
      exact ⟨.notInteger (.text s), rfl, rfl⟩
  | _ =>
    cases h
    exact ⟨_, rfl, rfl⟩

theorem readEntry_cases (w : View ι) (sec : Section) (e : Value × ι) :
    (IsEntry w e ∧ ∃ s k, readEntry w sec e = .ok (s, .int k)) ∨
    (e.1.writable = false ∧ readEntry w sec e = .error .unwritable) ∨
    e.1.writable = true ∧ (∀ k, integer? (w.value e.2) ≠ .ok k) ∧
      ∃ f, f.kind = .constants ∧ readEntry w sec e = .error (.ifWritable (w.value e.2) f) := by
  unfold readEntry IsEntry
  cases hk : e.1.writable with
  | false => exact .inr (.inl ⟨rfl, rfl⟩)
  | true =>
    cases hv : integer? (w.value e.2) with
    | ok k => exact .inl ⟨⟨rfl, k, rfl⟩, _, k, rfl⟩
    | error f =>
      obtain ⟨g, hg, rfl⟩ := integer?_eq_error hv
      exact .inr (.inr ⟨rfl, fun k => nofun, g, hg, rfl⟩)

theorem exists_readEntry_iff : (∃ r, readEntry w sec e = .ok r) ↔ IsEntry w e := by
  obtain ⟨he, s, k, hr⟩ | ⟨hk, hr⟩ | ⟨-, hn, f, -, hr⟩ := readEntry_cases w sec e
  · exact ⟨fun _ => he, fun _ => ⟨_, hr⟩⟩
  · rw [hr]
    constructor
    · rintro ⟨r, ⟨⟩⟩
    · intro he
      cases hk.symm.trans he.1
  · rw [hr]
    constructor
    · rintro ⟨r, ⟨⟩⟩
    · rintro ⟨-, k, hv⟩
      exact absurd hv (hn k)

theorem readEntry_unwritable_iff :
    readEntry w sec e = .error .unwritable ↔ e.1.writable = false ∨
      e.1.writable = true ∧ (∀ k, integer? (w.value e.2) ≠ .ok k) ∧
        (w.value e.2).writable = false := by
  obtain ⟨⟨hk, k, hv⟩, s, k', hr⟩ | ⟨hk, hr⟩ | ⟨hk, hn, f, hf, hr⟩ := readEntry_cases w sec e
  · rw [hr, hk]
    constructor
    · intro h
      cases h
    · rintro (h | ⟨-, hn, -⟩)
      · cases h
      · exact absurd hv (hn k)
  · exact ⟨fun _ => .inl hk, fun _ => hr⟩
  · rw [hr, Except.error.injEq, ifWritable_eq_unwritable_iff hf, hk]
    exact ⟨fun h => .inr ⟨rfl, hn, h⟩, fun h => (h.resolve_left nofun).2.2⟩

/-- The faults of reading: those of a flaw, and the one of what cannot be written. -/
def IsLoadFault (f : BindingFault) : Prop := f.kind = .constants ∨ f = .unwritable

theorem isLoadFault_of_readEntry (h : readEntry w sec e = .error f) : IsLoadFault f := by
  obtain ⟨-, s, k, hr⟩ | ⟨-, hr⟩ | ⟨-, -, g, hg, hr⟩ := readEntry_cases w sec e
  · exact nomatch h.symm.trans hr
  · cases h.symm.trans hr
    exact .inr rfl
  · cases h.symm.trans hr
    exact ifWritable_cases hg _

end Entries

/-! ## Tables -/

section Sections

variable {entries : List (Value × ι)} {sec : Section} {std : Ordered String Value}
  {f : BindingFault}

/-- All values are whole numbers. -/
def AreWhole (t : Ordered String Value) : Prop := ∀ v ∈ t.values, ∃ k, v = .int k

theorem mem_values_insert {κ α : Type} [DecidableEq κ] {m : Ordered κ α} {k : κ} {x y : α}
    (h : y ∈ (m.insert k x).values) : y = x ∨ y ∈ m.values := by
  unfold Ordered.values Ordered.insert at h
  unfold Ordered.values
  simp only at h
  generalize m.entries = es at h
  induction es with
  | nil => exact .inl (List.mem_singleton.1 h)
  | cons e es ih =>
    unfold Ordered.insertEntry at h
    by_cases hk : e.1 = k
    · rw [if_pos hk, List.map_cons, List.mem_cons] at h
      exact h.imp id (List.mem_cons_of_mem e.2)
    · rw [if_neg hk, List.map_cons, List.mem_cons] at h
      rw [List.map_cons, List.mem_cons]
      obtain h | h := h
      · exact .inr (.inl h)
      · exact (ih h).imp id .inr

theorem areWhole_ofList {es : List (String × Value)} (h : ∀ e ∈ es, ∃ k, e.2 = .int k) :
    AreWhole (Ordered.ofList es) := by
  -- The fold starts anywhere, so that the induction can go on with the entries already inserted.
  have hfold : ∀ m : Ordered String Value, AreWhole m →
      AreWhole (es.foldl (fun m e => m.insert e.1 e.2) m) := by
    induction es with
    | nil => exact fun m hm => hm
    | cons e es ih =>
      obtain ⟨⟨k, hk⟩, hes⟩ := List.forall_mem_cons.1 h
      refine fun m hm => ih hes _ fun v hv => ?_
      obtain rfl | hv := mem_values_insert hv
      · exact ⟨k, hk⟩
      · exact hm v hv
  exact hfold .empty fun v hv => absurd hv List.not_mem_nil

/-- The table that is read from a content. -/
def readTable (w : View ι) (sec : Section) (std : Ordered String Value) :
    Option (Opened ι) → Except BindingFault (Ordered String Value)
  | none => .ok std
  | some .null => .ok std
  | some (.map es) => Ordered.ofList <$> es.mapM (readEntry w sec)
  | some (.other kind) => .error (.sectionNotMapping sec kind)

theorem sectionOf_eq :
    sectionOf w entries sec std = readTable w sec std (contentAt w entries sec) := by
  unfold sectionOf contentAt
  cases (contentOf entries (Enumerated.name sec)).map w.opened with
  | none => rfl
  | some o =>
    cases o with
    | null | other => rfl
    | map es => exact bind_pure_comp ..

theorem readTable_eq_error_iff {c : Option (Opened ι)} :
    readTable w sec std c = .error f ↔
      (∃ kind, c = some (.other kind) ∧ f = .sectionNotMapping sec kind) ∨
      ∃ es e, c = some (.map es) ∧ ComesTo (IsEntry w) es e ∧ readEntry w sec e = .error f := by
  have hmap : ∀ es, readTable w sec std (some (.map es)) = .error f ↔
      ∃ e, ComesTo (IsEntry w) es e ∧ readEntry w sec e = .error f := by
    intro es
    refine map_eq_error_iff.trans (mapM_eq_error_iff.trans ?_)
    simp only [exists_readEntry_iff]
  constructor
  · intro h
    match c, h with
    | some (.other kind), h =>
      cases h
      exact .inl ⟨kind, rfl, rfl⟩
    | some (.map es), h =>
      obtain ⟨e, he, hf⟩ := (hmap es).1 h
      exact .inr ⟨es, e, rfl, he, hf⟩
  · rintro (⟨kind, rfl, rfl⟩ | ⟨es, e, rfl, he, hf⟩)
    · rfl
    · exact (hmap es).2 ⟨e, he, hf⟩

theorem exists_readTable_iff {c : Option (Opened ι)} :
    (∃ t, readTable w sec std c = .ok t) ↔ IsTable w c := by
  match c with
  | none | some .null => exact ⟨fun _ => trivial, fun _ => ⟨std, rfl⟩⟩
  | some (.other kind) =>
    constructor
    · rintro ⟨t, ⟨⟩⟩
    · exact False.elim
  | some (.map es) =>
    refine exists_map_iff.trans (exists_mapM_iff.trans ?_)
    simp only [exists_readEntry_iff]
    rfl

theorem areWhole_readTable {c : Option (Opened ι)} {t : Ordered String Value} (hstd : AreWhole std)
    (h : readTable w sec std c = .ok t) : AreWhole t := by
  match c, h with
  | none, rfl | some .null, rfl => exact hstd
  | some (.map es), h =>
    cases hrs : es.mapM (readEntry w sec) with
    | error f =>
      unfold readTable at h
      simp only [hrs] at h
      cases h
    | ok rs =>
      unfold readTable at h
      simp only [hrs] at h
      cases h
      refine areWhole_ofList fun r hr => ?_
      obtain ⟨e, -, he⟩ := mapM_eq_ok hrs r hr
      obtain ⟨-, s, k, hk⟩ | ⟨-, hk⟩ | ⟨-, -, f, -, hk⟩ := readEntry_cases w sec e
      · cases he.symm.trans hk
        exact ⟨k, rfl⟩
      · exact nomatch he.symm.trans hk
      · exact nomatch he.symm.trans hk

theorem isLoadFault_of_readTable {c : Option (Opened ι)} (h : readTable w sec std c = .error f) :
    IsLoadFault f := by
  obtain ⟨kind, -, rfl⟩ | ⟨es, e, -, -, hf⟩ := readTable_eq_error_iff.1 h
  · exact .inl rfl
  · exact isLoadFault_of_readEntry hf

end Sections

/-! ## Five tables -/

section Views

variable {entries : List (Value × ι)} {f : BindingFault} {t : Tables}

theorem areWhole_bytes {α : Type} [Enumerated α] (t : Table α UInt8) :
    AreWhole (t.map fun _ => Bindings.byteAsValue).toNamed := by
  intro v hv
  unfold Ordered.values Table.toNamed Table.map Ordered.mapValues at hv
  simp only [List.map_map, List.mem_map, Function.comp_apply] at hv
  obtain ⟨e, -, rfl⟩ := hv
  exact ⟨byteValue e.2, rfl⟩

theorem areWhole_standard (sec : Section) : AreWhole (Bindings.standard.toTables.of sec) := by
  cases sec with
  | registers | flags | syscalls | opcodes => exact areWhole_bytes _
  | layout =>
    have hv : (Bindings.standard.toTables.of .layout).values = [.int 0, .int 1, .int 2] := rfl
    unfold AreWhole
    rw [hv]
    simp

theorem ofView_map (hi : w.opened i = .map entries) :
    (fun _ => ()) <$> ofView w i = (fun _ => ()) <$> (Enumerated.all : List Section).mapM
      fun s => readTable w s (Bindings.standard.toTables.of s) (contentAt w entries s) := by
  unfold ofView
  rw [hi, all_sections]
  simp only [List.mapM_cons, List.mapM_nil, sectionOf_eq, map_bind, bind_assoc, pure_bind, map_pure]
  rfl

theorem ofView_eq_ok (h : ofView w i = .ok t) :
    ∃ entries, ∀ sec, readTable w sec (Bindings.standard.toTables.of sec)
      (contentAt w entries sec) = .ok (t.of sec) := by
  unfold ofView at h
  cases hi : w.opened i with
  | null | other =>
    rw [hi] at h
    cases h
  | map entries =>
    rw [hi] at h
    simp only [sectionOf_eq] at h
    obtain ⟨registers, hr, h⟩ := bind_eq_ok h
    obtain ⟨flags, hf, h⟩ := bind_eq_ok h
    obtain ⟨syscalls, hs, h⟩ := bind_eq_ok h
    obtain ⟨opcodes, ho, h⟩ := bind_eq_ok h
    obtain ⟨layout, hl, h⟩ := bind_eq_ok h
    cases h
    refine ⟨entries, fun sec => ?_⟩
    cases sec with
    | registers => exact hr
    | flags => exact hf
    | syscalls => exact hs
    | opcodes => exact ho
    | layout => exact hl

theorem areWhole_ofView (h : ofView w i = .ok t) (sec : Section) : AreWhole (t.of sec) := by
  obtain ⟨entries, hs⟩ := ofView_eq_ok h
  exact areWhole_readTable (areWhole_standard sec) (hs sec)

theorem sortable_of_areWhole {t : Ordered String Value} (h : AreWhole t) :
    sortable t.values = true := by
  unfold AreWhole at h
  generalize t.values = vs at h
  match vs, h with
  | [], _ | [_], _ | [_, _], _ | _ :: _ :: _ :: _ :: _, _ => rfl
  | [x, y, z], h =>
    simp only [List.forall_mem_cons] at h
    obtain ⟨⟨i, rfl⟩, ⟨j, rfl⟩, ⟨k, rfl⟩, -⟩ := h
    exact Bool.or_true _

theorem ofView_eq_error_iff (hi : w.opened i = .map entries) :
    ofView w i = .error f ↔
      ∃ sec, ComesTo (fun s => IsTable w (contentAt w entries s)) Enumerated.all sec ∧
        readTable w sec (Bindings.standard.toTables.of sec) (contentAt w entries sec) =
          .error f := by
  rw [← map_eq_error_iff (g := fun _ => ()), ofView_map hi, map_eq_error_iff, mapM_eq_error_iff]
  simp only [exists_readTable_iff]

theorem kind_of_ofView (hi : ∀ entries, w.opened i ≠ .map entries) (h : ofView w i = .error f) :
    f.kind = .constants := by
  unfold ofView at h
  cases ho : w.opened i with
  | map entries => exact absurd ho (hi entries)
  | null | other =>
    rw [ho] at h
    cases h
    rfl

theorem isLoadFault_of_ofView (h : ofView w i = .error f) : IsLoadFault f := by
  by_cases hi : ∃ entries, w.opened i = .map entries
  · obtain ⟨entries, hi⟩ := hi
    obtain ⟨sec, -, hs⟩ := (ofView_eq_error_iff hi).1 h
    exact isLoadFault_of_readTable hs
  · exact .inl (kind_of_ofView (not_exists.1 hi) h)

/-! ## The whole of loading -/

theorem isWhole_of_areWhole {l : Layout} (h : ∀ v ∈ l.table.values, ∃ k, v = .int k) :
    l.isWhole = true := by
  unfold Layout.isWhole
  rw [List.all_eq_true]
  intro f _
  obtain ⟨k, hk⟩ := h _ (Table.mem_values_iff.2 ⟨f, rfl⟩)
  rw [hk]

theorem isLoadFault_of_load (h : (ofView w i >>= validate) = .error f) : IsLoadFault f := by
  obtain h | ⟨t, ht, h⟩ := bind_eq_error h
  · exact isLoadFault_of_ofView h
  · obtain ⟨sec, -, hc⟩ := validate_eq_error_iff.1 h
    exact (flawed_of_check hc).kind (sortable_of_areWhole (areWhole_ofView ht sec))

theorem isWhole_of_load {b : Bindings} (h : (ofView w i >>= validate) = .ok b) :
    b.layout.isWhole = true := by
  obtain ⟨t, ht, hb⟩ := bind_eq_ok h
  refine isWhole_of_areWhole fun v hv => ?_
  rw [values_of_validate hb] at hv
  exact areWhole_ofView ht .layout v hv

theorem exists_shows (h : ofView w i = .error .unwritable) :
    ∃ v, Shows w i v ∧ v.writable = false := by
  by_cases hi : ∃ entries, w.opened i = .map entries
  · obtain ⟨entries, hi⟩ := hi
    obtain ⟨sec, hs, hr⟩ := (ofView_eq_error_iff hi).1 h
    obtain ⟨kind, -, hf⟩ | ⟨es, e, hc, he, hr⟩ := readTable_eq_error_iff.1 hr
    · cases hf
    · obtain hk | ⟨hk, hn, hv⟩ := readEntry_unwritable_iff.1 hr
      · exact ⟨e.1, .key hi hs hc he, hk⟩
      · exact ⟨w.value e.2, .content hi hs hc he hk hn, hv⟩
  · have hk := kind_of_ofView (not_exists.1 hi) h
    cases hk

theorem load_of_readEntry {es : List (Value × ι)} {e : Value × ι} {sec : Section}
    (hi : w.opened i = .map entries)
    (hs : ComesTo (fun s => IsTable w (contentAt w entries s)) Enumerated.all sec)
    (hc : contentAt w entries sec = some (.map es)) (he : ComesTo (IsEntry w) es e)
    (hr : readEntry w sec e = .error f) : (ofView w i >>= validate) = .error f := by
  have ht : readTable w sec (Bindings.standard.toTables.of sec) (contentAt w entries sec) =
      .error f := readTable_eq_error_iff.2 (.inr ⟨es, e, hc, he, hr⟩)
  rw [(ofView_eq_error_iff hi).2 ⟨sec, hs, ht⟩]
  rfl

theorem load_unwritable_iff :
    (ofView w i >>= validate) = .error .unwritable ↔ ∃ v, Shows w i v ∧ v.writable = false := by
  constructor
  · intro h
    obtain h | ⟨t, ht, h⟩ := bind_eq_error h
    · exact exists_shows h
    · obtain ⟨sec, hs, hc⟩ := validate_eq_error_iff.1 h
      have hw := sortable_of_areWhole (areWhole_ofView ht sec)
      obtain ⟨v, hx, hv⟩ := (check_unwritable_iff hw).1 hc
      exact ⟨v, .exhibit ht hs hx, hv⟩
  · rintro ⟨v, hx, hv⟩
    cases hx with
    | key hi hs hc he => exact load_of_readEntry hi hs hc he (readEntry_unwritable_iff.2 (.inl hv))
    | content hi hs hc he hk hn =>
      exact load_of_readEntry hi hs hc he (readEntry_unwritable_iff.2 (.inr ⟨hk, hn, hv⟩))
    | @exhibit t sec _ ht hs hx =>
      have hw := sortable_of_areWhole (areWhole_ofView ht sec)
      have hc := (check_unwritable_iff hw).2 ⟨v, hx, hv⟩
      rw [ht]
      exact validate_eq_error_iff.2 ⟨_, hs, hc⟩

end Views

end Tables

namespace Bindings

open Tables

/-- **Loading fails with a fault of the constants, or where a number is too long to be written.**
Whatever value is given, every fault is one of the constants, unless loading comes to a place where
it has to write a whole number beyond the limit for decimal texts: in the name of an entry, or in
the message about a content that is no number, about a value that is no byte or about places that
are no permutation. -/
theorem kind_of_ofValue_iff (v : Value) :
    ((∀ f, Bindings.ofValue v = .error f → f.kind = .constants) ↔
      ∀ x, Shows Value.view v x → x.writable = true) ∧
    ∀ f, Bindings.ofValue v = .error f → f.kind = .constants ∨ f = .unwritable := by
  have hload : ∀ f, Bindings.ofValue v = .error f → f.kind = .constants ∨ f = .unwritable :=
    fun f => isLoadFault_of_load (w := Value.view)
  refine ⟨⟨fun h x hx => ?_, fun h f hf => ?_⟩, hload⟩
  · cases hw : x.writable with
    | true => rfl
    | false =>
      have hk := h _ ((load_unwritable_iff (w := Value.view)).2 ⟨x, hx, hw⟩)
      cases hk
  · obtain hk | rfl := hload f hf
    · exact hk
    · obtain ⟨x, hx, hw⟩ := (load_unwritable_iff (w := Value.view)).1 hf
      cases (h x hx).symm.trans hw

/-- Registers of which one is given as a hexadecimal text of a number beyond the limit. -/
def overlong : Value :=
  .map [(.text (.ofString "registers"), .map [
    (.text (.ofString "A"), .text (.ofChars ('0' :: 'x' :: '1' :: List.replicate 3572 '0'))),
    (.text (.ofString "B"), .int 64), (.text (.ofString "C"), .int 8),
    (.text (.ofString "D"), .int 2), (.text (.ofString "S"), .int 16),
    (.text (.ofString "I"), .int 4), (.text (.ofString "F"), .int 1)])]

/-- The message that the number is no byte cannot be written. -/
theorem overlong_unwritable :
    ∃ f, Bindings.ofValue overlong = .error f ∧ f.kind = .value := by
  have h : fails (fun f => decide (f.kind = .value)) (Bindings.ofValue overlong) = true := by
    decide +kernel
  obtain ⟨f, hf, hk⟩ := exists_error_of_fails h
  exact ⟨f, hf, of_decide_eq_true hk⟩

end Bindings

end Yan85
