import Yan85.Bindings.Fault
import Yan85.Bindings.Standard

/-! # From tables of values to an encoding

* `Tables`: the five tables as a document gives them, names and values unchecked.
* `Tables.named?`: a table whose names are exactly those of a type.
* `bytes?`: a table whose values are bytes, distinct ones where that matters.
* `validate`: the encoding of five tables, or the first fault of them.
-/

namespace Yan85
set_option autoImplicit false

/-- The five tables of an encoding, with names and values as a document gives them. -/
structure Tables where
  registers : Ordered String Value
  flags : Ordered String Value
  syscalls : Ordered String Value
  opcodes : Ordered String Value
  layout : Ordered String Value

namespace Tables

/-! ## Names -/

section Names

variable {α : Type} [Enumerated α]

/-- The names of the type that a table does not have. -/
def missing (α : Type) [Enumerated α] (t : Ordered String Value) : List String :=
  ((Enumerated.all : List α).map Enumerated.name).filter fun s => !t.keys.contains s

/-- The names of a table that are not names of the type. -/
def unknown (α : Type) [Enumerated α] (t : Ordered String Value) : List String :=
  t.keys.filter fun s => (Enumerated.ofName? s : Option α).isNone

/-- An entry under the member that it names. -/
def member? (e : String × Value) : Option (α × Value) :=
  (Enumerated.ofName? e.1).map fun a => (a, e.2)

theorem nodup_members (t : Ordered String Value) :
    ((t.entries.filterMap (member? (α := α))).map Prod.fst).Nodup := by
  have hp := t.keys_nodup
  unfold List.Nodup at hp ⊢
  rw [List.pairwise_map] at hp ⊢
  refine hp.filterMap member? ?_
  rintro ⟨s, v⟩ ⟨s', v'⟩ hne ⟨a, w⟩ ha ⟨a', w'⟩ ha' h
  simp only [member?, Option.map_eq_some_iff, Prod.mk.injEq] at ha ha'
  obtain ⟨c, hc, rfl, rfl⟩ := ha
  obtain ⟨c', hc', rfl, rfl⟩ := ha'
  apply hne
  simp only at h
  subst h
  rw [← Enumerated.name_of_ofName? hc, ← Enumerated.name_of_ofName? hc']

theorem mem_members (t : Ordered String Value) (h : missing α t = []) (a : α) :
    a ∈ (t.entries.filterMap (member? (α := α))).map Prod.fst := by
  have hk : Enumerated.name a ∈ t.keys := by
    unfold missing at h
    rw [List.filter_eq_nil_iff] at h
    simpa using h _ (List.mem_map_of_mem (Enumerated.mem_all a))
  unfold Ordered.keys at hk
  rw [List.mem_map] at hk ⊢
  obtain ⟨⟨s, v⟩, hm, hs⟩ := hk
  refine ⟨(a, v), ?_, rfl⟩
  rw [List.mem_filterMap]
  refine ⟨(s, v), hm, ?_⟩
  simp only at hs
  simp [member?, hs, Enumerated.ofName?_name]

/-- The table with the names of the type, if it has all of them and no other. -/
def named? (α : Type) [Enumerated α] (sec : Section) (t : Ordered String Value) :
    Except BindingFault (Table α Value) :=
  if h : missing α t = [] then
    if unknown α t = [] then
      .ok ⟨⟨t.entries.filterMap member?, nodup_members t⟩, mem_members t h⟩
    else .error (.unknownEntries sec (unknown α t))
  else .error (.missingEntries sec (missing α t))

end Names

/-! ## Bytes -/

section Bytes

variable {α : Type} [Enumerated α]

/-- The byte that a value is; truth values are none. -/
def byteOf? : Value → Option UInt8
  | .int i => byte? i
  | _ => none

/-- The entries `es` as bytes behind the entries `seen`. Where bytes have to be distinct, an entry
may not repeat the byte of one before it. -/
def bytesAfter (sec : Section) (distinct : Bool) (seen : List (α × UInt8)) :
    List (α × Value) → Except BindingFault (List (α × UInt8))
  | [] => .ok seen
  | (a, v) :: es =>
    match byteOf? v with
    | none => .error (.ifWritable v (.notByte sec (Enumerated.name a) v))
    | some x =>
      match if distinct then seen.find? fun e => e.2 == x else none with
      | some e => .error (.sharedByte sec (Enumerated.name a) (Enumerated.name e.1) x)
      | none => bytesAfter sec distinct (seen ++ [(a, x)]) es

theorem keys_bytesAfter {sec : Section} {distinct : Bool} {es : List (α × Value)}
    {seen r : List (α × UInt8)} (h : bytesAfter sec distinct seen es = .ok r) :
    r.map Prod.fst = seen.map Prod.fst ++ es.map Prod.fst := by
  induction es generalizing seen with
  | nil =>
    simp only [bytesAfter, Except.ok.injEq] at h
    simp [h]
  | cons e es ih =>
    obtain ⟨a, v⟩ := e
    simp only [bytesAfter] at h
    split at h
    · cases h
    · split at h
      · cases h
      · have := ih h
        simpa using this

theorem values_bytesAfter {sec : Section} {es : List (α × Value)} {seen r : List (α × UInt8)}
    (h : bytesAfter sec true seen es = .ok r) (hs : (seen.map Prod.snd).Nodup) :
    (r.map Prod.snd).Nodup := by
  induction es generalizing seen with
  | nil =>
    simp only [bytesAfter, Except.ok.injEq] at h
    simpa [← h] using hs
  | cons e es ih =>
    obtain ⟨a, v⟩ := e
    simp only [bytesAfter, if_true] at h
    split at h
    · cases h
    · split at h
      · cases h
      · rename_i x _ _ hn
        refine ih h ?_
        rw [List.map_append]
        refine List.nodup_append.2 ⟨hs, by simp, ?_⟩
        intro y hy z hz hyz
        simp only [List.map_cons, List.map_nil, List.mem_singleton] at hz
        obtain ⟨e', he', rfl⟩ := List.mem_map.1 hy
        have := List.find?_eq_none.1 hn e' he'
        simp only [beq_iff_eq] at this
        exact this (hyz.trans hz)

/-- A table of bytes. -/
def bytes? (sec : Section) (t : Table α Value) : Except BindingFault (Table α UInt8) :=
  match h : bytesAfter sec false [] t.entries with
  | .error f => .error f
  | .ok es =>
    .ok ⟨⟨es, by rw [keys_bytesAfter h]; simpa using t.keys_nodup⟩, by
      intro a
      unfold Ordered.keys
      rw [keys_bytesAfter h]
      exact t.complete a⟩

/-- A table of distinct bytes. -/
def distinctBytes? (sec : Section) (t : Table α Value) :
    Except BindingFault { t' : Table α UInt8 // t'.Distinct } :=
  match h : bytesAfter sec true [] t.entries with
  | .error f => .error f
  | .ok es =>
    .ok ⟨⟨⟨es, by rw [keys_bytesAfter h]; simpa using t.keys_nodup⟩, by
      intro a
      unfold Ordered.keys
      rw [keys_bytesAfter h]
      exact t.complete a⟩, values_bytesAfter h (by simp)⟩

end Bytes

/-! ## Registers and places -/

/-- The first register whose byte has not exactly one bit. -/
def notSingle? (t : Table Register UInt8) : Option (Register × UInt8) :=
  t.entries.find? fun e => !decide (SingleBit e.2)

theorem single_of_notSingle? {t : Table Register UInt8} (h : notSingle? t = none) (r : Register) :
    SingleBit (t.get r) := by
  have := List.find?_eq_none.1 h _ (t.mem_entries_get r)
  simpa using this

/-- Whether three values can be sorted: neighbours must have an order, and the outer two as well
when the steps go in different directions. -/
def sortable : List Value → Bool
  | [x, y, z] =>
    match y.less? x, z.less? y with
    | some p, some q => p == q || (z.less? x).isSome
    | _, _ => false
  | _ => true

/-- The layout that a table of values gives. -/
def layout? (t : Table Field Value) : Except BindingFault Layout :=
  if h : Permutes t then .ok ⟨t, h⟩
  else if sortable t.values then
    let es := t.entries.map fun e => (Enumerated.name e.1, e.2)
    .error (.ifWritable (.list t.values) (.notPermutation es))
  else .error .unordered

end Tables

open Tables

/-- The encoding that five tables describe: registers, flags, system calls, operations and layout
are looked at in this order, of each table first the names and then the values. -/
def Tables.validate (t : Tables) : Except BindingFault Bindings := do
  let ⟨registers, registers_distinct⟩ ←
    distinctBytes? .registers (← named? Register .registers t.registers)
  match hs : notSingle? registers with
  | some (r, x) => throw (.notSingleBit (Enumerated.name r) x)
  | none =>
    let flags ← bytes? .flags (← named? Flag .flags t.flags)
    let ⟨syscalls, syscalls_distinct⟩ ←
      distinctBytes? .syscalls (← named? Syscall .syscalls t.syscalls)
    let ⟨opcodes, opcodes_distinct⟩ ←
      distinctBytes? .opcodes (← named? Mnemonic .opcodes t.opcodes)
    let layout ← layout? (← named? Field .layout t.layout)
    return { registers, flags, syscalls, opcodes, layout,
             registers_distinct, registers_single := single_of_notSingle? hs,
             syscalls_distinct, opcodes_distinct }

/-- A table with its members written by name. -/
def Table.toNamed {α : Type} [Enumerated α] (t : Table α Value) : Ordered String Value :=
  ⟨t.entries.map fun e => (Enumerated.name e.1, e.2), by
    have h := t.keys_nodup
    unfold List.Nodup at h ⊢
    rw [List.pairwise_map] at h
    rw [List.pairwise_map, List.pairwise_map]
    exact h.imp fun hne he => hne (Enumerated.name_injective _ _ he)⟩

/-- The five tables of an encoding. -/
def Bindings.toTables (b : Bindings) : Tables where
  registers := (b.registers.map fun _ => Bindings.byteAsValue).toNamed
  flags := (b.flags.map fun _ => Bindings.byteAsValue).toNamed
  syscalls := (b.syscalls.map fun _ => Bindings.byteAsValue).toNamed
  opcodes := (b.opcodes.map fun _ => Bindings.byteAsValue).toNamed
  layout := b.layout.table.toNamed

end Yan85
