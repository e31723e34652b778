import Yan85.Text.Basic
import Yan85.Text.CharClass
import Yan85.Text.CaseTable

/-! # Upper and lower case of a text

* `upper`: every letter in its full upper case, which may be several letters.
* `lower`: likewise; a capital sigma that ends a word becomes the final sigma.
-/

namespace Yan85.Text
set_option autoImplicit false

/-- The code point at the other end of the run that holds `c`. -/
def caseOf? (runs : List CaseRun) (c : Nat) : Option Nat :=
  (runs.find? fun r => r.first ≤ c && c ≤ r.last && (c - r.first) % r.stride == 0).map
    fun r => (Int.ofNat c + r.offset).toNat

/-- The other case of `c` by its expansion, its run, or else `c` itself. -/
def mapCase (expansions : List (Nat × List Nat)) (runs : List CaseRun) (c : Nat) : List Nat :=
  match expansions.lookup c with
  | some cs => cs
  | none => [(caseOf? runs c).getD c]

/-- Whether a cased letter comes first in `cs`, after the characters that are passed over. -/
def startsCased (cs : List Nat) : Bool :=
  match cs.dropWhile (inClass caseIgnorableBounds) with
  | c :: _ => inClass casedBounds c
  | [] => false

/-- The lower case of `cs`, where `before` holds the characters to the left, nearest first. -/
def lowerFrom (before : List Nat) : List Nat → List Nat
  | [] => []
  | c :: cs =>
    let mapped :=
      if c = 0x3A3 then
        if startsCased before && !startsCased cs then [0x3C2] else [0x3C3]
      else mapCase lowerExpansions lowerRuns c
    mapped ++ lowerFrom (c :: before) cs

/-- A text in upper case. -/
def upper (t : Text) : Text := ⟨t.codes.flatMap (mapCase upperExpansions upperRuns)⟩

/-- A text in lower case. -/
def lower (t : Text) : Text := ⟨lowerFrom [] t.codes⟩

end Yan85.Text
