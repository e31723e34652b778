import Yan85.Document.Fault
import Yan85.Text.Utf8

/-! # Texts of documents

* `Source`: the text that can be read out of a byte string, and the fault behind it if it breaks
  off.
* `Source.decode`: bytes become characters piece by piece, and line breaks become uniform. Nothing
  of a piece with a byte out of place can be read.
* `Source.ofBytes`: characters are read in portions. Nothing of a portion with a character that is
  not allowed can be read.
-/

namespace Yan85.Document
set_option autoImplicit false

open Yan85.Text

/-- A text, and the fault that is found behind it if it breaks off. -/
structure Source where
  text : List Char
  ending : Option DocumentFault

/-- A text in which every line ends with the same break. -/
def uniformBreaks : List Char → List Char
  | '\r' :: '\n' :: cs => '\n' :: uniformBreaks cs
  | '\r' :: cs => '\n' :: uniformBreaks cs
  | c :: cs => c :: uniformBreaks cs
  | [] => []

/-- Whether a character may stand in a document: no control but tab and line breaks, and no code
point that is set apart for other uses. -/
def isAllowed (c : Char) : Bool :=
  let n := c.toNat
  n == 0x09 || n == 0x0A || n == 0x0D || (0x20 ≤ n && n ≤ 0x7E) || n == 0x85 ||
    (0xA0 ≤ n && n ≤ 0xD7FF) || (0xE000 ≤ n && n ≤ 0xFFFD) || 0x10000 ≤ n

namespace Source

/-- The number of characters in a portion. -/
def portion : Nat := 4096

/-- The least number of bytes in a piece, if there are as many. -/
def leastPiece : Nat := 8192

/-- What is known between two pieces: the bytes behind them, the bytes of a character that is not
complete, whether a carriage return waits for its line feed, the number of characters so far, and
the numbers of bytes and characters in the last piece. -/
structure Decoder where
  rest : List UInt8
  tail : List UInt8
  waiting : Bool
  count : Nat
  lastBytes : Nat
  lastChars : Nat

namespace Decoder

def start (data : List UInt8) : Decoder := ⟨data, [], false, 0, 0, 0⟩

/-- The number of bytes in the next piece: as many as fill the portion if they have the length of
those in the last piece. -/
def pieceSize (d : Decoder) : Nat :=
  max leastPiece (d.lastBytes * (portion - d.count % portion) / d.lastChars)

/-- The characters of the next piece. The piece behind the last byte is empty. -/
def next? (d : Decoder) : Option (List Char × Decoder) :=
  let piece := d.rest.take d.pieceSize
  match Utf8.decodeStart? (d.tail ++ piece) with
  | none => none
  | some (cs, tail) =>
    let last := piece.isEmpty
    let cs := if d.waiting && (last || !cs.isEmpty) then '\r' :: cs else cs
    let waits := !last && (cs.getLast? == some '\r' || (d.waiting && cs.isEmpty))
    let cs := uniformBreaks (if cs.getLast? == some '\r' && !last then cs.dropLast else cs)
    if last && !tail.isEmpty then none
    else
      some (cs, {
        rest := d.rest.drop piece.length
        tail := tail
        waiting := waits
        count := d.count + cs.length
        lastBytes := piece.length
        lastChars := cs.length })

/-- The characters of all pieces, and whether no byte is out of place. -/
def run : Nat → Decoder → List Char × Bool
  | 0, _ => ([], true)
  | fuel + 1, d =>
    match d.next? with
    | none => ([], false)
    | some (cs, d') =>
      if d.rest.isEmpty then (cs, true)
      else
        let (more, whole) := run fuel d'
        (cs ++ more, whole)

end Decoder

/-- The characters before the first piece with a byte out of place, and whether there is none. -/
def decode (data : List UInt8) : List Char × Bool := (Decoder.start data).run (data.length + 1)

/-- The number of characters that are read before the one with the number `k`. The first two
portions are read at once. -/
def readBefore (k : Nat) : Nat := if k < 2 * portion then 0 else k / portion * portion

/-- The text that can be read out of a byte string. -/
def ofBytes (data : List UInt8) : Source :=
  let (cs, whole) := decode data
  let readable := if whole then cs else cs.take (readBefore cs.length)
  match readable.findIdx? fun c => !isAllowed c with
  | some k => ⟨readable.take (readBefore k), some .malformed⟩
  | none => ⟨readable, if whole then none else some .notText⟩

end Source

end Yan85.Document
