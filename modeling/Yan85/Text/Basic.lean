/-! # Texts

* `Text`: a sequence of code points, in which surrogates may stand alone.
* `ofString`, `chars`: between texts and characters; `chars_ofString` says that nothing is lost.
* `plain`: a text as a string, where a surrogate stands as an escape.
-/

namespace Yan85
set_option autoImplicit false

/-- A text: the code points of its characters, and of surrogates that stand alone. -/
structure Text where
  codes : List Nat
  deriving DecidableEq, Repr, Inhabited

namespace Text

/-- Whether `c` is a surrogate. -/
def isSurrogate (c : Nat) : Bool := 0xD800 ≤ c && c ≤ 0xDFFF

def ofChars (cs : List Char) : Text := ⟨cs.map Char.toNat⟩

def ofString (s : String) : Text := ofChars s.toList

/-- The characters of a text; a surrogate, which is none, is seen as the null character. -/
def chars (t : Text) : List Char := t.codes.map Char.ofNat

@[simp] theorem chars_ofChars (cs : List Char) : (ofChars cs).chars = cs := by
  simp [chars, ofChars, Function.comp_def]

theorem chars_ofString (s : String) : (ofString s).chars = s.toList := chars_ofChars _

theorem ofChars_injective {cs ds : List Char} (h : ofChars cs = ofChars ds) : cs = ds := by
  rw [← chars_ofChars cs, h, chars_ofChars]

theorem ofString_injective {s t : String} (h : ofString s = ofString t) : s = t :=
  String.ext (ofChars_injective h)

def isEmpty (t : Text) : Bool := t.codes.isEmpty

/-- The text without its first `n` code points. -/
def drop (n : Nat) (t : Text) : Text := ⟨t.codes.drop n⟩

/-- Whether `s` comes first in a text. -/
def startsWith (t : Text) (s : String) : Bool := (ofString s).codes.isPrefixOf t.codes

/-- The text without the character `x`. -/
def without (x : Char) (t : Text) : Text := ⟨t.codes.filter (· != x.toNat)⟩

/-- The parts of a text between colons. -/
def betweenColons (t : Text) : List Text := (t.codes.splitOn ':'.toNat).map Text.mk

/-- A text as a string, where a surrogate stands as a backslash, the letter `u` and its four
digits. -/
def plain (t : Text) : String :=
  String.ofList <| t.codes.flatMap fun c =>
    if isSurrogate c then '\\' :: 'u' :: Nat.toDigits 16 c else [Char.ofNat c]

end Text

end Yan85
