import Yan85.Text.CaseMap

/-! # The letter case of words

* `SameLetters cs ds`: two texts differ in nothing but the letter case of ASCII.
* `upper_ofChars`, `lower_ofChars`: in a word of ASCII every letter changes its case by itself.
* `upper_of_sameLetters`, `lower_of_sameLetters`: what has the letters of a word in capitals becomes
  this word in upper case, and likewise for small letters.
* `plain_ofChars`: characters are written as they are.
-/

namespace Yan85.Text
set_option autoImplicit false

/-- Two texts of characters differ in nothing but the letter case of ASCII. -/
def SameLetters (cs ds : List Char) : Prop := cs.map Char.toLower = ds.map Char.toLower

instance (cs ds : List Char) : Decidable (SameLetters cs ds) := inferInstanceAs (Decidable (_ = _))

/-- Whether a character is an ASCII letter or an underscore. -/
def inWord (c : Char) : Bool :=
  ('A' ≤ c && c ≤ 'Z') || ('a' ≤ c && c ≤ 'z') || c == '_'

/-! ## Characters -/

section Characters

variable {c : Char}

theorem lt_of_inWord (h : inWord c = true) : c.toNat < 128 := by
  have hle : ∀ {z : Char}, c ≤ z → c.toNat ≤ z.toNat := UInt32.le_iff_toNat_le.1
  simp only [inWord, Bool.or_eq_true, Bool.and_eq_true, decide_eq_true_eq, beq_iff_eq] at h
  obtain (⟨-, hc⟩ | ⟨-, hc⟩) | rfl := h
  · exact Nat.lt_of_le_of_lt (hle hc) (by decide)
  · exact Nat.lt_of_le_of_lt (hle hc) (by decide)
  · decide

/-- A statement about all characters of words can be checked one after the other. -/
theorem of_forall_inWord {p : Char → Prop}
    (hp : ∀ k : Fin 128, inWord (Char.ofNat k) = true → p (Char.ofNat k))
    (hc : inWord c = true) : p c := by
  have h := hp ⟨c.toNat, lt_of_inWord hc⟩
  rw [Char.ofNat_toNat] at h
  exact h hc

theorem inWord_of_toLower (h : inWord c.toLower = true) : inWord c = true := by
  unfold Char.toLower at h
  split at h
  case isTrue hc =>
    have hfirst : 'A' ≤ c := hc.1
    have hlast : c ≤ 'Z' := hc.2
    rw [inWord, decide_eq_true hfirst, decide_eq_true hlast]
    rfl
  case isFalse => exact h

theorem inWord_toLower (hc : inWord c = true) : inWord c.toLower = true :=
  of_forall_inWord (p := fun c => inWord c.toLower = true) (by decide +kernel) hc

theorem toUpper_toLower (hc : inWord c = true) : c.toLower.toUpper = c.toUpper :=
  of_forall_inWord (p := fun c => c.toLower.toUpper = c.toUpper) (by decide +kernel) hc

theorem mapCase_upper (hc : inWord c = true) :
    mapCase upperExpansions upperRuns c.toNat = [c.toUpper.toNat] :=
  of_forall_inWord (p := fun c => mapCase upperExpansions upperRuns c.toNat = [c.toUpper.toNat])
    (by decide +kernel) hc

theorem mapCase_lower (hc : inWord c = true) :
    mapCase lowerExpansions lowerRuns c.toNat = [c.toLower.toNat] :=
  of_forall_inWord (p := fun c => mapCase lowerExpansions lowerRuns c.toNat = [c.toLower.toNat])
    (by decide +kernel) hc

end Characters

/-! ## Texts -/

section Texts

variable {cs ds : List Char}

theorem upper_ofChars (h : ∀ c ∈ cs, inWord c = true) :
    upper (.ofChars cs) = .ofChars (cs.map Char.toUpper) := by
  unfold upper ofChars
  rw [List.flatMap_map, List.map_map]
  congr 1
  induction cs with
  | nil => rfl
  | cons c cs ih =>
    obtain ⟨hc, hcs⟩ := List.forall_mem_cons.1 h
    rw [List.flatMap_cons, List.map_cons, ih hcs, mapCase_upper hc]
    rfl

theorem lower_ofChars (h : ∀ c ∈ cs, inWord c = true) :
    lower (.ofChars cs) = .ofChars (cs.map Char.toLower) := by
  -- What stands to the left of a letter counts for a sigma only.
  have hfrom : ∀ before, lowerFrom before (cs.map Char.toNat) =
      (cs.map Char.toLower).map Char.toNat := by
    induction cs with
    | nil => exact fun _ => rfl
    | cons c cs ih =>
      obtain ⟨hc, hcs⟩ := List.forall_mem_cons.1 h
      have hsigma : c.toNat ≠ 0x3A3 := by
        have hlt := lt_of_inWord hc
        omega
      intro before
      rw [List.map_cons, lowerFrom, if_neg hsigma, ih hcs, mapCase_lower hc]
      rfl
  exact congrArg Text.mk (hfrom [])

theorem SameLetters.inWord (h : SameLetters cs ds) (hd : ∀ c ∈ ds, inWord c = true) :
    ∀ c ∈ cs, inWord c = true := by
  intro c hc
  have hm : c.toLower ∈ ds.map Char.toLower := h ▸ List.mem_map_of_mem hc
  obtain ⟨d, hdm, hdc⟩ := List.mem_map.1 hm
  have hlow := inWord_toLower (hd d hdm)
  rw [hdc] at hlow
  exact inWord_of_toLower hlow

theorem upper_of_sameLetters (h : SameLetters cs ds) (hd : ∀ c ∈ ds, inWord c = true)
    (hu : ds.map Char.toUpper = ds) : upper (.ofChars cs) = .ofChars ds := by
  have hcs := h.inWord hd
  have hback : ∀ es : List Char, (∀ c ∈ es, inWord c = true) →
      (es.map Char.toLower).map Char.toUpper = es.map Char.toUpper := by
    intro es hes
    rw [List.map_map]
    exact List.map_congr_left fun c hc => toUpper_toLower (hes c hc)
  have he := congrArg (List.map Char.toUpper) h
  rw [hback cs hcs, hback ds hd, hu] at he
  rw [upper_ofChars hcs, he]

theorem lower_of_sameLetters (h : SameLetters cs ds) (hd : ∀ c ∈ ds, inWord c = true)
    (hl : ds.map Char.toLower = ds) : lower (.ofChars cs) = .ofChars ds := by
  rw [lower_ofChars (h.inWord hd), h, hl]

theorem plain_ofChars (cs : List Char) : (ofChars cs).plain = String.ofList cs := by
  unfold plain ofChars
  rw [List.flatMap_map]
  congr 1
  induction cs with
  | nil => rfl
  | cons c cs ih =>
    have hs : isSurrogate c.toNat = false := by
      have hv : c.toNat < 0xD800 ∨ 0xDFFF < c.toNat ∧ c.toNat < 0x110000 := c.valid
      unfold isSurrogate
      rw [Bool.and_eq_false_iff, decide_eq_false_iff_not, decide_eq_false_iff_not]
      omega
    rw [List.flatMap_cons, ih, hs, Char.ofNat_toNat]
    rfl

end Texts

end Yan85.Text
