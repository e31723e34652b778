import Yan85.Document.Read
import Yan85.Proofs.Bindings.Tables

/-! # Documents that are no maps

* `Hollow v`: the values that are taken for an empty document although they are one of something
  else.
* `opened_root`, `isBlank_eq`: a reader of entries sees at the root of a content what its value is.
* `ofBytes_refuses_iff`: a document with a value that is neither null nor a map is refused just as
  the value is, unless the value is hollow.
-/

namespace Yan85
set_option autoImplicit false

namespace Value

/-- False, zero and what is empty, null and maps apart. -/
inductive Hollow : Value → Prop
  | bool : Hollow (.bool false)
  | int : Hollow (.int 0)
  | float (negative : Bool) (exponent : Int) : Hollow (.float (.finite negative 0 exponent))
  | text : Hollow (.text ⟨[]⟩)
  | bytes : Hollow (.bytes [])
  | list : Hollow (.list [])
  | set : Hollow (.set [])

theorem hollow_iff {v : Value} (hn : v ≠ .null) (hm : ∀ es, v ≠ .map es) :
    Hollow v ↔ v.isBlank = true := by
  constructor
  · intro h
    cases h <;> rfl
  · intro h
    cases v with
    | null => exact absurd rfl hn
    | map es => exact absurd rfl (hm es)
    | bool b =>
      cases b with
      | false => exact .bool
      | true => cases h
    | int i =>
      obtain rfl : i = 0 := beq_iff_eq.1 h
      exact .int
    | float x =>
      cases x with
      | finite s m e =>
        obtain rfl : m = 0 := beq_iff_eq.1 h
        exact .float s e
      | infinite | nan => cases h
    | text s =>
      obtain ⟨codes⟩ := s
      obtain rfl : codes = [] := List.isEmpty_iff.1 h
      exact .text
    | bytes data =>
      obtain rfl : data = [] := List.isEmpty_iff.1 h
      exact .bytes
    | list items =>
      obtain rfl : items = [] := List.isEmpty_iff.1 h
      exact .list
    | set items =>
      obtain rfl : items = [] := List.isEmpty_iff.1 h
      exact .set
    | _ => cases h

theorem opened_of_other {v : Value} (hn : v ≠ .null) (hm : ∀ es, v ≠ .map es) :
    v.opened = .other v.kind := by
  cases v with
  | null => exact absurd rfl hn
  | map es => exact absurd rfl (hm es)
  | _ => rfl

end Value

/-! ## Contents -/

namespace Document.Content

variable {c : Content}

/-- The value at the root: around it there is nothing that it could be inside of. -/
theorem value_root (c : Content) :
    c.value c.root =
      let value := c.valueWithin c.objects.size [c.root]
      match c.objects[c.root]? with
      | none => .null
      | some (.atom k) => k.value
      | some (.list is) => .list (is.map value)
      | some (.pairs ps) => .list (ps.map fun p => .pair (value p.1) (value p.2))
      | some (.map es) => .map (es.map fun e => (e.1.value, value e.2))
      | some (.set ks) => .set (ks.map (·.value)) := by
  unfold value
  rw [valueWithin]
  cases c.objects[c.root]? with
  | none => rfl
  | some o => cases o <;> rfl

theorem isBlank_eq (c : Content) : c.isBlank = (c.value c.root).isBlank := by
  rw [value_root]
  unfold isBlank
  cases c.objects[c.root]? with
  | none => rfl
  | some o =>
    cases o with
    | atom k => rfl
    | list | pairs | map | set => exact List.isEmpty_map.symm

theorem opened_root (hn : c.value c.root ≠ .null) (hm : ∀ es, c.value c.root ≠ .map es) :
    c.opened c.root = .other (c.value c.root).kind := by
  rw [value_root] at hn hm ⊢
  unfold opened
  cases ho : c.objects[c.root]? with
  | none =>
    rw [ho] at hn
    exact absurd rfl hn
  | some o =>
    rw [ho] at hn hm
    cases o with
    | atom k =>
      cases hk : k.value with
      | null => exact absurd hk hn
      | _ => simp only [hk]
    | map es => exact absurd rfl (hm _)
    | list | pairs | set => rfl

end Document.Content

/-! ## Documents -/

namespace Bindings

open Document

theorem ofValue_nil : Bindings.ofValue (.map []) = .ok standard := Tables.validate_toTables standard

theorem ofValue_of_other {v : Value} (hn : v ≠ .null) (hm : ∀ es, v ≠ .map es) :
    Bindings.ofValue v = .error (.notMapping v.kind) := by
  have ho : Value.view.opened v = .other v.kind := Value.opened_of_other hn hm
  unfold Bindings.ofValue Tables.ofValue Tables.ofView
  rw [ho]
  rfl

theorem ofContent_of_other {c : Content} (hn : c.value c.root ≠ .null)
    (hm : ∀ es, c.value c.root ≠ .map es) :
    ofContent c = if c.isBlank then .ok standard
      else .error (.notMapping (c.value c.root).kind) := by
  have ho : c.view.opened c.root = .other (c.value c.root).kind := Content.opened_root hn hm
  unfold ofContent Tables.ofView
  rw [ofValue_nil, ho]
  rfl

/-- **A document that is neither null nor a map is refused just as its value is, unless the value is
hollow.** This holds of every reader of documents. -/
theorem ofBytes_refuses_iff {read : Reader} {data : List UInt8} {c : Content}
    (hc : read data = .ok c) (hn : c.value c.root ≠ .null)
    (hm : ∀ es, c.value c.root ≠ .map es) :
    ∃ f, f.kind = .constants ∧ Bindings.ofValue (c.value c.root) = .error f ∧
      (Bindings.ofBytes read data = .error (.bindings f) ↔ ¬ (c.value c.root).Hollow) ∧
      ((c.value c.root).Hollow → Bindings.ofBytes read data = .ok standard) := by
  refine ⟨.notMapping (c.value c.root).kind, rfl, ofValue_of_other hn hm, ?_⟩
  have hload : Bindings.ofBytes read data = (ofContent c).mapError .bindings := by
    unfold Bindings.ofBytes
    rw [hc]
  rw [hload, ofContent_of_other hn hm, Value.hollow_iff hn hm, Content.isBlank_eq]
  cases (c.value c.root).isBlank with
  | true => exact ⟨⟨nofun, fun h => absurd rfl h⟩, fun _ => rfl⟩
  | false => exact ⟨⟨nofun, fun _ => rfl⟩, nofun⟩

/-- The content of a document whose value has the property `p`. -/
theorem exists_content {data : List UInt8} {p : Value → Bool}
    (h : ((Content.ofBytes data).toOption.any fun c => p (c.value c.root)) = true) :
    ∃ c, Content.ofBytes data = .ok c ∧ p (c.value c.root) = true := by
  cases hc : Content.ofBytes data with
  | error d =>
    rw [hc] at h
    cases h
  | ok c =>
    rw [hc] at h
    exact ⟨c, rfl, h⟩

/-- The document of a number that is not zero is refused. -/
theorem seven_refused :
    ∃ c f, Content.ofBytes [0x37, 0x0A] = .ok c ∧ c.value c.root ≠ .null ∧
      (∀ es, c.value c.root ≠ .map es) ∧ f.kind = .constants ∧
      Bindings.ofValue (c.value c.root) = .error f ∧
      Bindings.ofBytes Content.ofBytes [0x37, 0x0A] = .error (.bindings f) := by
  have h : ((Content.ofBytes [0x37, 0x0A]).toOption.any fun c =>
      (c.value c.root).same (.int 7) && !(c.value c.root).isBlank) = true := by
    decide +kernel
  obtain ⟨c, hc, hv⟩ := exists_content (p := fun v => v.same (.int 7) && !v.isBlank) h
  rw [Bool.and_eq_true] at hv
  have hn : c.value c.root ≠ .null := by
    intro hn
    rw [hn] at hv
    cases hv.1
  have hm : ∀ es, c.value c.root ≠ .map es := by
    intro es hm
    rw [hm] at hv
    cases hv.1
  obtain ⟨f, hk, hf, hload, -⟩ := ofBytes_refuses_iff hc hn hm
  refine ⟨c, f, hc, hn, hm, hk, hf, hload.2 ?_⟩
  rw [Value.hollow_iff hn hm]
  intro hb
  rw [hb] at hv
  cases hv.2

/-- The document of a list without items is loaded, although the list is refused. -/
theorem brackets_loaded :
    ∃ c, Content.ofBytes [0x5B, 0x5D, 0x0A] = .ok c ∧ c.value c.root = .list [] ∧
      (∃ f, Bindings.ofValue (c.value c.root) = .error f ∧ f.kind = .constants) ∧
      ∃ b, Bindings.ofBytes Content.ofBytes [0x5B, 0x5D, 0x0A] = .ok b := by
  have h : ((Content.ofBytes [0x5B, 0x5D, 0x0A]).toOption.any fun c =>
      (c.value c.root).same (.list [])) = true := by
    decide +kernel
  obtain ⟨c, hc, hv⟩ := exists_content (p := fun v => v.same (.list [])) h
  have hl : c.value c.root = .list [] := by
    generalize c.value c.root = v at hv
    cases v with
    | list items =>
      cases items with
      | nil => rfl
      | cons => cases hv
    | _ => cases hv
  refine ⟨c, hc, hl, ⟨.notMapping "list", ?_, rfl⟩, exists_ok_of_isOk (by decide +kernel)⟩
  rw [hl]
  rfl

end Bindings

end Yan85
