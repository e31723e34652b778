import Yan85.Proofs.Bindings.Loading
import Yan85.Proofs.Bindings.Tables
import Yan85.Proofs.Text.LetterCase
import Yan85.Proofs.Text.Numerals

/-! # Encodings that are written as documents and read back

* `Writes n v`: the value `v` writes the number `n`, as a number or as a numeral.
* `Exports b order entries`: a map of these entries is a way of writing the encoding `b`, with the
  tables in a given order.
* `readEntry_eq_ok`, `readTable_eq_ok`: what is written is read, entry by entry and table by table.
* `agrees_of_perm`: encodings whose tables have the same entries agree.
* `read_exported`: every encoding is read back from every way of writing it.
-/

namespace Yan85
set_option autoImplicit false

open Text Text.IntegerLiteral

namespace Bindings

/-! ## Encodings in writing -/

/-- The ways of writing a number: as a number, as a decimal numeral with a sign and with blanks
around it, or as a hexadecimal numeral. -/
inductive Writes : Int → Value → Prop
  | int (n : Int) : Writes n (.int n)
  | decimal {ds : List Nat} {before cs after : List Char} (s : Sign)
      (hb : ∀ c ∈ before, isBlank c = true) (ha : ∀ c ∈ after, isBlank c = true)
      (h : Numeral 10 ds cs) (hl : ds.length ≤ digitLimit) :
      Writes (s.apply (value 10 ds)) (.text (.ofChars (before ++ s.chars ++ cs ++ after)))
  | hexadecimal {ds : List Nat} {cs : List Char} {m : Char} (hm : m = 'x' ∨ m = 'X')
      (h : Numeral 16 ds cs) :
      Writes (Int.ofNat (value 16 ds)) (.text (.ofChars ('0' :: m :: cs)))

/-- The ways of writing a named number: the name may be in any letter case. -/
structure WritesEntry (n : String × Int) (e : Value × Value) : Prop where
  name : ∃ cs, e.1 = .text (.ofChars cs) ∧ SameLetters cs n.1.toList
  number : Writes n.2 e.2

/-- Named numbers as the entries of a table. -/
def asEntries (ns : List (String × Int)) : List (String × Value) := ns.map fun n => (n.1, .int n.2)

/-- The key of a table. -/
def keyOf (sec : Section) : Value := .text (.ofString (Enumerated.name sec))

/-- The ways of writing a table among the entries of a document; only one with the entries of the
standard one may be null or left out. -/
inductive WritesTable (entries : List (Value × Value)) (sec : Section) (ns : List (String × Int)) :
    Prop
  | map {es : List (Value × Value)} (hm : (keyOf sec, .map es) ∈ entries)
      (he : List.Forall₂ WritesEntry ns es)
  | null (hm : (keyOf sec, .null) ∈ entries)
      (hs : asEntries ns = (standard.toTables.of sec).entries)
  | absent (hm : ∀ e ∈ entries, e.1 ≠ keyOf sec)
      (hs : asEntries ns = (standard.toTables.of sec).entries)

/-- The entries of a document write the encoding `b`, each of its tables with whole numbers in the
given order. What else they have does not matter. -/
structure Exports (b : Bindings) (order : Section → List (String × Int))
    (entries : List (Value × Value)) : Prop where
  keys : entries.Pairwise fun e f => e.1.same f.1 = false
  perm : ∀ sec, (asEntries (order sec)).Perm (b.toTables.of sec).entries
  tables : ∀ sec, WritesTable entries sec (order sec)

end Bindings

namespace Tables

open Bindings

/-! ## Entries -/

section Entries

variable {sec : Section} {n : String × Int} {e : Value × Value} {v : Value} {k : Int}

theorem startsWith_ofChars_iff {cs : List Char} {s : String} :
    (ofChars cs).startsWith s = true ↔ s.toList <+: cs := by
  have hinj : Function.Injective Char.toNat := fun _ _ => Char.toNat_inj.1
  unfold startsWith
  rw [List.isPrefixOf_iff_prefix]
  exact List.prefix_map_iff_of_injective hinj

theorem hasHexMark_iff {cs : List Char} :
    hasHexMark (.ofChars cs) = true ↔ ∃ m cs', cs = '0' :: m :: cs' ∧ (m = 'x' ∨ m = 'X') := by
  unfold hasHexMark
  rw [Bool.or_eq_true, startsWith_ofChars_iff, startsWith_ofChars_iff]
  constructor
  · rintro (⟨cs', rfl⟩ | ⟨cs', rfl⟩)
    · exact ⟨'x', cs', rfl, .inl rfl⟩
    · exact ⟨'X', cs', rfl, .inr rfl⟩
  · rintro ⟨m, cs', rfl, rfl | rfl⟩
    · exact .inl ⟨cs', rfl⟩
    · exact .inr ⟨cs', rfl⟩

/-- A decimal numeral is not taken for a hexadecimal one. -/
theorem not_hasHexMark_decimal {ds : List Nat} {before cs after : List Char} (s : Sign)
    (hb : ∀ c ∈ before, isBlank c = true) (ha : ∀ c ∈ after, isBlank c = true)
    (h : Numeral 10 ds cs) :
    hasHexMark (.ofChars (before ++ s.chars ++ cs ++ after)) = false := by
  rw [Bool.eq_false_iff, Ne, hasHexMark_iff]
  rintro ⟨m, rest, he, hm⟩
  have hblank : isBlank m = false := by
    obtain rfl | rfl := hm <;> decide +kernel
  have hdigit : ∀ {d}, ¬ IsDigit 10 d m := by
    intro d hd
    obtain ⟨hx, hX⟩ := hd.of_forall (p := fun _ c => c ≠ 'x' ∧ c ≠ 'X') (by decide) (by decide)
    exact hm.elim hx hX
  have hzero : isBlank '0' = false := by decide +kernel
  cases before with
  | cons b before =>
    obtain rfl := (List.cons.inj he).1
    exact absurd (hb _ List.mem_cons_self) (by rw [hzero]; decide)
  | nil =>
    cases s with
    | plus | minus => exact absurd (List.cons.inj he).1 (by decide)
    | none =>
      cases h with
      | single hd =>
        obtain rfl : after = m :: rest := (List.cons.inj he).2
        exact absurd (ha m List.mem_cons_self) (by rw [hblank]; decide)
      | cons hd hs =>
        obtain ⟨d, c, cs', rfl, hc⟩ := exists_cons_of_numeral hs
        obtain rfl : c = m := (List.cons.inj (List.cons.inj he).2).1
        exact hdigit hc
      | parted =>
        obtain rfl : '_' = m := (List.cons.inj (List.cons.inj he).2).1
        exact absurd hm (by decide)

theorem integer?_text_eq_ok {cs : List Char}
    (h : IntegerLiteral.read (if hasHexMark (.ofChars cs) then 16 else 10) cs = .ok k) :
    integer? (.text (.ofChars cs)) = .ok k := by
  simp only [integer?, chars_ofChars, h]

theorem integer?_eq_ok (h : Writes k v) : integer? v = .ok k := by
  cases h with
  | int => rfl
  | decimal s hb ha h hl =>
    apply integer?_text_eq_ok
    rw [not_hasHexMark_decimal s hb ha h]
    have hread := read_decimal s hb ha h
    rwa [if_neg (Nat.not_lt.2 hl)] at hread
  | @hexadecimal ds cs m hm h =>
    apply integer?_text_eq_ok
    rw [hasHexMark_iff.2 ⟨m, cs, rfl, hm⟩]
    exact read_hexadecimal hm h

/-- The names of a table are words in its proper case. -/
theorem properCase_eq {cs : List Char} {name : String} (hn : name ∈ sec.names)
    (h : SameLetters cs name.toList) : (properCase sec (.ofChars cs)).plain = name := by
  have hspell : ∀ s ∈ sec.names, s.toList.all inWord = true ∧
      s.toList.map (if sec = .layout then Char.toLower else Char.toUpper) = s.toList := by
    cases sec <;> decide +kernel
  obtain ⟨hall, hcase⟩ := hspell name hn
  have hword := List.all_eq_true.1 hall
  cases sec with
  | registers | flags | syscalls | opcodes =>
    change (upper (.ofChars cs)).plain = name
    rw [upper_of_sameLetters h hword hcase, plain_ofChars, String.ofList_toList]
  | layout =>
    change (lower (.ofChars cs)).plain = name
    rw [lower_of_sameLetters h hword hcase, plain_ofChars, String.ofList_toList]

theorem readEntry_eq_ok (hn : n.1 ∈ sec.names) (h : WritesEntry n e) :
    readEntry Value.view sec e = .ok (n.1, .int n.2) := by
  obtain ⟨name, number⟩ := n
  obtain ⟨key, content⟩ := e
  obtain ⟨⟨cs, rfl, hcs⟩, hc⟩ := h
  have hi : integer? (Value.view.value content) = .ok number := integer?_eq_ok hc
  unfold readEntry
  simp only [hi]
  change Except.ok ((properCase sec (.ofChars cs)).plain, Value.int number) = _
  rw [properCase_eq hn hcs]

theorem mapM_eq_ok_of_forall₂ {ε α β : Type} {g : α → Except ε β} {rs : List β} {l : List α}
    (h : List.Forall₂ (fun r x => g x = .ok r) rs l) : l.mapM g = .ok rs := by
  induction h with
  | nil => rfl
  | cons hr _ ih =>
    rw [List.mapM_cons, hr, ih]
    rfl

theorem mapM_readEntry {ns : List (String × Int)} {es : List (Value × Value)}
    (hn : ∀ n ∈ ns, n.1 ∈ sec.names) (h : List.Forall₂ WritesEntry ns es) :
    es.mapM (readEntry Value.view sec) = .ok (asEntries ns) := by
  apply mapM_eq_ok_of_forall₂
  unfold asEntries
  rw [List.forall₂_map_left_iff]
  induction h with
  | nil => exact .nil
  | cons hw _ ih =>
    obtain ⟨hn, hns⟩ := List.forall_mem_cons.1 hn
    exact .cons (readEntry_eq_ok hn hw) (ih hns)

end Entries

/-! ## Tables -/

section Contents

variable {entries : List (Value × Value)} {sec : Section} {ns : List (String × Int)} {v : Value}

theorem same_text_iff {k : Value} {s : Text} : k.same (.text s) = true ↔ k = .text s := by
  cases k with
  | text t =>
    rw [Value.text.injEq]
    exact beq_iff_eq
  | bool | int | float => exact ⟨nofun, nofun⟩
  | _ => exact ⟨nofun, nofun⟩

/-- Among entries with different keys, the one that is found is the one that is there. -/
theorem contentOf_eq_some (hk : entries.Pairwise fun e f => e.1.same f.1 = false)
    (hm : (keyOf sec, v) ∈ entries) : contentOf entries (Enumerated.name sec) = some v := by
  unfold contentOf
  induction entries with
  | nil => exact absurd hm List.not_mem_nil
  | cons e entries ih =>
    obtain ⟨he, hk⟩ := List.pairwise_cons.1 hk
    obtain rfl | hm := List.mem_cons.1 hm
    · have hkey : (keyOf sec).same (keyOf sec) = true := same_text_iff.2 rfl
      simp only [keyOf] at hkey
      simp only [keyOf, List.find?_cons, hkey, Option.map_some]
    · have hne : e.1.same (keyOf sec) = false := he _ hm
      rw [List.find?_cons_of_neg (by simpa [keyOf] using hne)]
      exact ih hk hm

theorem contentOf_eq_none (hm : ∀ e ∈ entries, e.1 ≠ keyOf sec) :
    contentOf entries (Enumerated.name sec) = none := by
  unfold contentOf
  rw [Option.map_eq_none_iff, List.find?_eq_none]
  exact fun e he hs => hm e he (same_text_iff.1 hs)

theorem readTable_eq_ok (hk : entries.Pairwise fun e f => e.1.same f.1 = false)
    (hn : ∀ n ∈ ns, n.1 ∈ sec.names) (hd : ((asEntries ns).map Prod.fst).Nodup)
    (h : WritesTable entries sec ns) :
    ∃ t, readTable Value.view sec (standard.toTables.of sec) (contentAt Value.view entries sec) =
      .ok t ∧ t.entries = asEntries ns := by
  unfold contentAt
  cases h with
  | @map es hm he =>
    rw [contentOf_eq_some hk hm]
    refine ⟨.ofList (asEntries ns), ?_, Ordered.entries_ofList hd⟩
    change Ordered.ofList <$> es.mapM (readEntry Value.view sec) = _
    rw [mapM_readEntry hn he]
    rfl
  | null hm hs =>
    rw [contentOf_eq_some hk hm]
    exact ⟨_, rfl, hs.symm⟩
  | absent hm hs =>
    rw [contentOf_eq_none hm]
    exact ⟨_, rfl, hs.symm⟩

end Contents

/-! ## Five tables -/

theorem ofView_eq_ok_of_map {ι : Type} {w : View ι} {i : ι} {entries : List (Value × ι)}
    (hi : w.opened i = .map entries) {t : Tables}
    (h : ∀ sec, readTable w sec (standard.toTables.of sec) (contentAt w entries sec) =
      .ok (t.of sec)) : ofView w i = .ok t := by
  have hr := h .registers
  have hf := h .flags
  have hs := h .syscalls
  have ho := h .opcodes
  have hl := h .layout
  simp only [Tables.of] at hr hf hs ho hl
  unfold ofView
  simp only [hi, sectionOf_eq, hr, hf, hs, ho, hl]
  rfl

end Tables

namespace Bindings

open Tables

variable {b b' : Bindings} {order : Section → List (String × Int)}
  {entries : List (Value × Value)}

theorem same_int (k : Int) : (Value.int k).same (.int k) = true := by
  have hk : compare k k = .eq := Int.compare_eq_eq.2 rfl
  change (some (compare k k) == some .eq) = true
  rw [hk]
  rfl

/-- Encodings agree whose tables have the same entries, with whole numbers as places. -/
theorem agrees_of_perm (h : ∀ sec, (b'.toTables.of sec).entries.Perm (b.toTables.of sec).entries)
    (hl : ∀ f, ∃ k, b.layout.table.get f = .int k) : b.agrees b' = true := by
  have hr := Table.get_eq_of_perm_bytes (h .registers)
  have hf := Table.get_eq_of_perm_bytes (h .flags)
  have hs := Table.get_eq_of_perm_bytes (h .syscalls)
  have ho := Table.get_eq_of_perm_bytes (h .opcodes)
  have hp := Table.get_eq_of_perm (h .layout)
  simp only [agrees, Bool.and_eq_true, List.all_eq_true, beq_iff_eq]
  refine ⟨⟨⟨⟨fun r _ => (hr r).symm, fun f _ => (hf f).symm⟩, fun s _ => (hs s).symm⟩,
    fun m _ => (ho m).symm⟩, fun f _ => ?_⟩
  obtain ⟨k, hk⟩ := hl f
  rw [hp f, hk]
  exact same_int k

/-! ## Reading back -/

theorem Exports.mem_names (h : Exports b order entries) {sec : Section} {n : String × Int}
    (hn : n ∈ order sec) : n.1 ∈ sec.names := by
  have he : (n.1, Value.int n.2) ∈ asEntries (order sec) :=
    List.mem_map_of_mem (f := fun n => (n.1, Value.int n.2)) hn
  have hm := (h.perm sec).mem_iff.1 he
  exact ((accepts_toTables b sec).names n.1).1 (List.mem_map_of_mem (f := Prod.fst) hm)

theorem Exports.places (h : Exports b order entries) (f : Field) :
    ∃ k, b.layout.table.get f = .int k := by
  have hm := Ordered.find?_eq_some_iff_mem.1 (Table.find?_toNamed b.layout.table f)
  obtain ⟨n, -, hn⟩ := List.mem_map.1 ((h.perm .layout).mem_iff.2 hm)
  exact ⟨n.2, (congrArg Prod.snd hn).symm⟩

theorem Exports.exists_ofValue (h : Exports b order entries) :
    ∃ t, Tables.ofValue (.map entries) = .ok t ∧
      ∀ sec, (t.of sec).entries = asEntries (order sec) := by
  have hread : ∀ sec, ∃ t, readTable Value.view sec (standard.toTables.of sec)
      (contentAt Value.view entries sec) = .ok t ∧ t.entries = asEntries (order sec) := by
    intro sec
    have hd : ((asEntries (order sec)).map Prod.fst).Nodup :=
      ((h.perm sec).map Prod.fst).nodup_iff.2 (b.toTables.of sec).keys_nodup
    exact readTable_eq_ok h.keys (fun n hn => h.mem_names hn) hd (h.tables sec)
  choose T hT hent using hread
  refine ⟨⟨T .registers, T .flags, T .syscalls, T .opcodes, T .layout⟩,
    ofView_eq_ok_of_map rfl fun sec => ?_, fun sec => ?_⟩
  · cases sec <;> exact hT _
  · cases sec <;> exact hent _

/-- **Every encoding is read back from every way of writing it.** Each table may be written in any
order, its names in any letter case and its values as numbers or as numerals, or may be missing
where it has the entries of the standard one. What is read agrees with the encoding and has the
entries in the order in which they were written. -/
theorem read_exported (h : Exports b order entries) :
    ∃ b', Bindings.ofValue (.map entries) = .ok b' ∧ b.agrees b' = true ∧
      ∀ sec, (b'.toTables.of sec).entries = asEntries (order sec) := by
  obtain ⟨t, ht, hent⟩ := h.exists_ofValue
  have hperm : ∀ sec, (t.of sec).entries.Perm (b.toTables.of sec).entries := by
    intro sec
    rw [hent]
    exact h.perm sec
  obtain ⟨b', hb'⟩ := exists_validate_iff.2 fun sec => (accepts_toTables b sec).perm (hperm sec)
  obtain rfl := toTables_of_validate hb'
  refine ⟨b', ?_, agrees_of_perm hperm h.places, hent⟩
  unfold Bindings.ofValue
  rw [ht]
  exact hb'

/-- An encoding with one register elsewhere and with its places the other way round. -/
def mirrored : Bindings where
  registers := ⟨⟨[(.A, 0x20), (.B, 0x40), (.C, 0x08), (.D, 0x02), (.S, 0x10), (.I, 0x04),
    (.F, 0x80)], by decide⟩, by intro a; cases a <;> decide⟩
  flags := standardFlags
  syscalls := standardSyscalls
  opcodes := standardOpcodes
  layout := ⟨⟨⟨[(.op, .int 2), (.first, .int 1), (.second, .int 0)], by decide⟩,
    by intro a; cases a <;> decide⟩, by decide⟩
  registers_distinct := by unfold Table.Distinct; decide
  registers_single r := by cases r <;> decide
  syscalls_distinct := standard.syscalls_distinct
  opcodes_distinct := standard.opcodes_distinct

/-- The named numbers of `mirrored`, two of its tables backwards. -/
def mirroredOrder : Section → List (String × Int)
  | .registers => [("F", 128), ("I", 4), ("S", 16), ("D", 2), ("C", 8), ("B", 64), ("A", 32)]
  | .flags => standardFlags.entries.map fun e => (Enumerated.name e.1, byteValue e.2)
  | .syscalls => standardSyscalls.entries.map fun e => (Enumerated.name e.1, byteValue e.2)
  | .opcodes => standardOpcodes.entries.map fun e => (Enumerated.name e.1, byteValue e.2)
  | .layout => [("b", 0), ("a", 1), ("op", 2)]

/-- A document that writes `mirrored`, with names and numerals of several forms, a table that is
null and two that are left out. -/
def mirroredEntries : List (Value × Value) :=
  [(.text (.ofString "layout"), .map [
      (.text (.ofString "B"), .int 0), (.text (.ofString "a"), .text (.ofString "0x0_1")),
      (.text (.ofString "oP"), .text (.ofString " +2 "))]),
    (.bool true, .list []),
    (.text (.ofString "registers"), .map [
      (.text (.ofString "f"), .text (.ofString "0X80")), (.text (.ofString "I"), .int 4),
      (.text (.ofString "s"), .text (.ofString "1_6")), (.text (.ofString "D"), .int 2),
      (.text (.ofString "C"), .int 8), (.text (.ofString "B"), .int 64),
      (.text (.ofString "A"), .int 32)]),
    (.text (.ofString "flags"), .null)]

theorem mirrored_read_back :
    Exports mirrored mirroredOrder mirroredEntries ∧
      ∃ b', Bindings.ofValue (.map mirroredEntries) = .ok b' ∧ mirrored.agrees b' = true ∧
        ∀ sec, (b'.toTables.of sec).entries = asEntries (mirroredOrder sec) := by
  have hname : ∀ {n : String × Int} (s : String) {v : Value},
      SameLetters s.toList n.1.toList → Writes n.2 v →
      WritesEntry n (.text (.ofString s), v) := fun s _ hs hv => ⟨⟨s.toList, rfl, hs⟩, hv⟩
  have hplace : Writes 1 (.text (.ofString "0x0_1")) :=
    .hexadecimal (.inl rfl) (.parted (d := 0) (by decide) (.single (d := 1) (by decide)))
  have hspace : ∀ c ∈ [' '], isBlank c = true := List.forall_mem_singleton.2 (by decide)
  have hsigned : Writes 2 (.text (.ofString " +2 ")) :=
    @Writes.decimal [2] [' '] ['2'] [' '] .plus hspace hspace (.single (by decide)) (by decide)
  have hflag : Writes 128 (.text (.ofString "0X80")) :=
    .hexadecimal (.inr rfl) (.cons (d := 8) (by decide) (.single (d := 0) (by decide)))
  have hstack : Writes 16 (.text (.ofString "1_6")) :=
    @Writes.decimal [1, 6] [] ['1', '_', '6'] [] .none (List.forall_mem_nil _)
      (List.forall_mem_nil _) (.parted (by decide) (.single (by decide))) (by decide)
  have habsent : ∀ sec, (∀ e ∈ mirroredEntries, e.1.same (keyOf sec) = false) →
      ∀ e ∈ mirroredEntries, e.1 ≠ keyOf sec := by
    intro sec h e he hk
    have hs : e.1.same (keyOf sec) = true := same_text_iff.2 hk
    exact absurd (hs.symm.trans (h e he)) (by decide)
  have h : Exports mirrored mirroredOrder mirroredEntries := by
    refine ⟨by decide +kernel, fun sec => ?_, fun sec => ?_⟩
    · cases sec with
      | registers => exact List.reverse_perm (mirrored.toTables.of .registers).entries
      | flags => exact .refl (mirrored.toTables.of .flags).entries
      | syscalls => exact .refl (mirrored.toTables.of .syscalls).entries
      | opcodes => exact .refl (mirrored.toTables.of .opcodes).entries
      | layout => exact List.reverse_perm (mirrored.toTables.of .layout).entries
    · cases sec with
      | registers =>
        refine .map (.tail _ (.tail _ (.head _))) (.cons (hname "f" (by decide) hflag) ?_)
        refine .cons (hname "I" (by decide) (.int 4)) (.cons (hname "s" (by decide) hstack) ?_)
        refine .cons (hname "D" (by decide) (.int 2)) (.cons (hname "C" (by decide) (.int 8)) ?_)
        exact .cons (hname "B" (by decide) (.int 64)) (.cons (hname "A" (by decide) (.int 32)) .nil)
      | flags => exact .null (.tail _ (.tail _ (.tail _ (.head _)))) rfl
      | syscalls => exact .absent (habsent .syscalls (by decide +kernel)) rfl
      | opcodes => exact .absent (habsent .opcodes (by decide +kernel)) rfl
      | layout =>
        refine .map (.head _) (.cons (hname "B" (by decide) (.int 0)) ?_)
        exact .cons (hname "a" (by decide) hplace) (.cons (hname "oP" (by decide) hsigned) .nil)
  exact ⟨h, read_exported h⟩

end Bindings

end Yan85
