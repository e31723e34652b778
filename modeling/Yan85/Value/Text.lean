import Yan85.Value.Basic
import Yan85.Binary64.Written
import Yan85.Text.IntegerLiteral
import Yan85.Text.Quoted

/-! # Values as texts

* `quoted`: a value as it looks inside a collection; texts stand in quotes.
* `display`: a value by itself; a text stands as it is.
* `Writable`: no whole number in the value is longer than the limit for decimal texts.
-/

namespace Yan85.Value
set_option autoImplicit false

open Yan85.Text

/-- The items of a collection with commas between them. -/
def commaSeparated (items : List String) : String := ", ".intercalate items

/-- A byte string in quotes behind the letter `b`. -/
def quotedBytes (data : List UInt8) : String :=
  let cs := data.map UInt8.toNat
  let q := Quoted.mark cs
  String.ofList ('b' :: q :: cs.flatMap (fun c =>
    if c < 0x80 then Quoted.escape q c else '\\' :: 'x' :: Hex.fixed 2 c) ++ [q])

mutual

/-- A value as it looks inside a collection. -/
def quoted : Value → String
  | null => "None"
  | bool b => if b then "True" else "False"
  | int i => toString i
  | float x => x.written Binary64.messageStyle
  | text s => Quoted.ofText s
  | bytes data => quotedBytes data
  | date d => d.quoted
  | moment t => t.quoted
  | list items => "[" ++ commaSeparated (quotedItems items) ++ "]"
  | pair a b => "(" ++ quoted a ++ ", " ++ quoted b ++ ")"
  | set items =>
    if items.isEmpty then "set()" else "\x7b" ++ commaSeparated (quotedItems items) ++ "\x7d"
  | map entries => "\x7b" ++ commaSeparated (quotedEntries entries) ++ "\x7d"
  | enclosing b => b.1 ++ "..." ++ b.2
termination_by structural v => v

/-- The items of a list, each quoted. -/
def quotedItems : List Value → List String
  | [] => []
  | v :: vs => quoted v :: quotedItems vs
termination_by structural vs => vs

/-- The entries of a map, each as key, colon and content. -/
def quotedEntries : List (Value × Value) → List String
  | [] => []
  | e :: es => quotedEntry e :: quotedEntries es
termination_by structural es => es

/-- One entry of a map. -/
def quotedEntry : Value × Value → String
  | (k, v) => quoted k ++ ": " ++ quoted v
termination_by structural e => e

end

/-- A value by itself. -/
def display : Value → Text
  | text s => s
  | date d => .ofString d.isoText
  | moment t => .ofString t.isoText
  | v => .ofString v.quoted

/-- Whether a whole number has a decimal text. -/
def writableInt (i : Int) : Bool := i.natAbs < Nat.pow 10 IntegerLiteral.digitLimit

mutual

/-- Whether every whole number in a value has a decimal text. -/
def writable : Value → Bool
  | int i => writableInt i
  | list items => writableItems items
  | pair a b => writable a && writable b
  | set items => writableItems items
  | map entries => writableEntries entries
  | _ => true
termination_by structural v => v

/-- Whether every item is writable. -/
def writableItems : List Value → Bool
  | [] => true
  | v :: vs => writable v && writableItems vs
termination_by structural vs => vs

/-- Whether every key and every content is writable. -/
def writableEntries : List (Value × Value) → Bool
  | [] => true
  | e :: es => writableEntry e && writableEntries es
termination_by structural es => es

/-- Whether key and content are writable. -/
def writableEntry : Value × Value → Bool
  | (k, v) => writable k && writable v
termination_by structural e => e

end

end Yan85.Value
