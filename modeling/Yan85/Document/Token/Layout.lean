import Yan85.Document.Source
import Yan85.Document.Token.Block
import Yan85.Document.Token.Mark
import Yan85.Document.Token.Plain

/-! # From text to tokens

* `Layout`: what is known to the left of the cursor; the blocks that are open by indentation, the
  flow brackets that are open, and for each bracket the token that becomes a key if a colon follows.
* `Layout.advance`: one token and the ends of blocks before it.
* `Layout.settled`: the tokens that stay as they are, because none of them can become a key.
* `Token.ofSource`: all tokens of a text. At a place that is no token the settled ones are followed
  by one that says why.
-/

namespace Yan85.Document
set_option autoImplicit false

/-- A token that turns out to be a key if a colon follows; `position` is the number of tokens before
it. -/
structure PendingKey where
  position : Nat
  required : Bool
  index : Nat
  line : Nat
  column : Nat

/-- The most characters between the start of a key and its colon. -/
def keyReach : Nat := 1024

/-- A key on another line or too far back is none. A key that had to be one fails then. -/
def PendingKey.live? (c : Cursor) : Option PendingKey → Except DocumentFault (Option PendingKey)
  | none => .ok none
  | some k =>
    if k.line = c.line ∧ c.index - k.index ≤ keyReach then .ok (some k)
    else if k.required then .error .malformed
    else .ok none

/-- What the text before the cursor means for the text behind it. `tokens` are those so far, the
last one first, and `count` is their number. `blocks` are the columns of the open blocks, `key` is
the pending key inside the innermost flow bracket, and `outer` are those outside of it, one per open
bracket. -/
structure Layout where
  tokens : List Token
  count : Nat
  blocks : List Nat
  keyAllowed : Bool
  key : Option PendingKey
  outer : List (Option PendingKey)

namespace Layout

/-- The layout at the start of a text. -/
def start : Layout := ⟨[], 0, [], true, none, []⟩

def inFlow (l : Layout) : Bool := !l.outer.isEmpty

/-- The least column of content inside the innermost block. -/
def least (l : Layout) : Nat :=
  match l.blocks with
  | [] => 0
  | b :: _ => b + 1

/-- The layout with the tokens `ts` behind all others. -/
def pushAll (l : Layout) (ts : List Token) : Layout :=
  { l with tokens := ts.reverse ++ l.tokens, count := l.count + ts.length }

def push (l : Layout) (t : Token) : Layout := l.pushAll [t]

/-- The layout with the tokens `ts` before all those from a position on. -/
def insertAt (position : Nat) (ts : List Token) (l : Layout) : Layout :=
  let behind := l.count - position
  { l with
    tokens := l.tokens.take behind ++ ts.reverse ++ l.tokens.drop behind
    count := l.count + ts.length }

/-! ## Keys -/

/-- The layout without pending keys that are out of reach of the cursor. -/
def dropStale (l : Layout) (c : Cursor) : Except DocumentFault Layout := do
  return { l with key := ← PendingKey.live? c l.key, outer := ← l.outer.mapM (PendingKey.live? c) }

/-- The number of tokens before all pending keys. -/
def settled (l : Layout) : Nat :=
  (l.key :: l.outer).foldl (fun n k => k.elim n fun k => min n k.position) l.count

/-- The layout without its pending key. -/
def dropKey (l : Layout) : Except DocumentFault Layout :=
  match l.key with
  | some k => if k.required then .error .malformed else .ok { l with key := none }
  | none => .ok l

/-- The layout in which the next token is a pending key, if a key is allowed. The first token in
the column of a block has to be a key. -/
def expectKey (l : Layout) (c : Cursor) : Except DocumentFault Layout := do
  if l.keyAllowed then
    let l ← l.dropKey
    let required := !l.inFlow && l.blocks.head? == some c.column
    return { l with key := some ⟨l.count, required, c.index, c.line, c.column⟩ }
  else return l

/-! ## Blocks -/

/-- The ends of the open blocks whose column has the property `p`. -/
def closeBlocks (p : Nat → Bool) (l : Layout) : Layout :=
  if l.inFlow then l
  else
    { l.pushAll ((l.blocks.takeWhile p).map fun _ => .blockEnd) with
      blocks := l.blocks.dropWhile p }

/-- A block that starts at a column, if no block at this column is open. -/
def openBlock (t : Token) (column : Nat) (l : Layout) : Layout :=
  if l.least ≤ column then { l.push t with blocks := column :: l.blocks } else l

/-! ## Marks -/

/-- A directive or a mark between documents, which ends all blocks. -/
def border (l : Layout) : Except DocumentFault Layout := do
  return { ← (l.closeBlocks fun _ => true).dropKey with keyAllowed := false }

/-- A bracket that opens. -/
def openFlow (t : Token) (l : Layout) (c : Cursor) : Except DocumentFault Layout := do
  let l ← l.expectKey c
  return { l.push t with keyAllowed := true, key := none, outer := l.key :: l.outer }

/-- A bracket that closes. -/
def closeFlow (t : Token) (l : Layout) : Except DocumentFault Layout := do
  let l ← l.dropKey
  match l.outer with
  | [] => throw .malformed
  | k :: ks => return { l.push t with keyAllowed := false, key := k, outer := ks }

/-- A comma in flow style. -/
def flowEntry (l : Layout) : Except DocumentFault Layout := do
  return { (← l.dropKey).push .flowEntry with keyAllowed := true }

/-- The dash of an item. -/
def blockEntry (l : Layout) (c : Cursor) : Except DocumentFault Layout := do
  if !l.inFlow && !l.keyAllowed then throw .malformed
  let l := if l.inFlow then l else l.openBlock .blockSequenceStart c.column
  return { (← l.dropKey).push .blockEntry with keyAllowed := true }

/-- The mark of a key that need not be short. -/
def markedKey (l : Layout) (c : Cursor) : Except DocumentFault Layout := do
  if !l.inFlow && !l.keyAllowed then throw .malformed
  let l := if l.inFlow then l else l.openBlock .blockMappingStart c.column
  return { (← l.dropKey).push .key with keyAllowed := !l.inFlow }

/-- The colon before a content. It makes a key of the pending one. -/
def content (l : Layout) (c : Cursor) : Except DocumentFault Layout := do
  match l.key with
  | some k =>
    let opens := !l.inFlow && l.least ≤ k.column
    let start := if opens then [Token.blockMappingStart, .key] else [.key]
    return {
      (l.insertAt k.position start).push .content with
      blocks := if opens then k.column :: l.blocks else l.blocks
      keyAllowed := false
      key := none }
  | none =>
    if !l.inFlow && !l.keyAllowed then throw .malformed
    let l := if l.inFlow then l else l.openBlock .blockMappingStart c.column
    return { l.push .content with keyAllowed := !l.inFlow }

/-! ## One token -/

/-- The place of the next token, and whether a line was broken before it. -/
def nextPlace : Nat → Cursor → Cursor × Bool
  | 0, c => (c, false)
  | fuel + 1, c =>
    let c := c.skipSpaces.skipComment
    match c.lineBreak? with
    | some (_, c') => ((nextPlace fuel c').1, true)
    | none => (c, false)

/-- Characters that start no plain scalar. -/
def isIndicator (x : Char) : Bool :=
  "-?:,[]\x7b\x7d#&*!|>%@".toList.contains x ||
    x.toNat == 0x27 || x.toNat == 0x22 || x.toNat == 0x60

/-- Whether a plain scalar starts at the cursor. -/
def startsPlain (l : Layout) (c : Cursor) : Bool :=
  match c.here with
  | none => false
  | some x =>
    !(endsWord (some x) || isIndicator x) ||
      (!endsWord (c.peek 1) && (x == '-' || (!l.inFlow && (x == '?' || x == ':'))))

/-- A token that may be a key and is read by `scan`. -/
def inlineToken (l : Layout) (c : Cursor) (scan : Cursor → Except DocumentFault (Token × Cursor)) :
    Except DocumentFault (Layout × Cursor) := do
  let l ← l.expectKey c
  let (t, c') ← scan c
  return ({ l.push t with keyAllowed := false }, c')

/-- A token that starts with the character `x`, which stands at the cursor. -/
def token (l : Layout) (c : Cursor) (x : Char) : Except DocumentFault (Layout × Cursor) := do
  let apart := endsWord (c.peek 1)
  if x == '%' && c.column == 0 then
    let l ← l.border
    let (t, c') ← directive c
    return (l.push t, c')
  else if c.column == 0 && c.atDocumentMark then
    return ((← l.border).push (if x == '-' then .documentStart else .documentEnd), c.skip 3)
  else if x == '[' then return (← l.openFlow .flowSequenceStart c, c.next)
  else if x == '\x7b' then return (← l.openFlow .flowMappingStart c, c.next)
  else if x == ']' then return (← l.closeFlow .flowSequenceEnd, c.next)
  else if x == '\x7d' then return (← l.closeFlow .flowMappingEnd, c.next)
  else if x == ',' then return (← l.flowEntry, c.next)
  else if x == '-' && apart then return (← l.blockEntry c, c.next)
  else if x == '?' && (l.inFlow || apart) then return (← l.markedKey c, c.next)
  else if x == ':' && (l.inFlow || apart) then return (← l.content c, c.next)
  else if x == '*' then
    l.inlineToken c fun c => do let (s, c') ← anchorName c; return (.alias s, c')
  else if x == '&' then
    l.inlineToken c fun c => do let (s, c') ← anchorName c; return (.anchor s, c')
  else if x == '!' then l.inlineToken c tag
  else if (x == '|' || x == '>') && !l.inFlow then
    let l ← l.dropKey
    let (t, c') ← blockScalar l.least c
    return ({ l.push t with keyAllowed := true }, c')
  else if x.toNat == 0x27 || x.toNat == 0x22 then l.inlineToken c quotedScalar
  else if l.startsPlain c then
    let l ← l.expectKey c
    let ((t, broken), c') := plainScalar l.inFlow l.least c
    return ({ l.push t with keyAllowed := broken }, c')
  else throw .malformed

/-- The next token with the ends of blocks before it; no place behind it is given at the end of the
text. -/
def advance (l : Layout) (c : Cursor) : Except DocumentFault (Layout × Option Cursor) := do
  let (c, broken) := nextPlace c.left c
  if let some f := c.broken? then throw f
  let l := if broken && !l.inFlow then { l with keyAllowed := true } else l
  let l ← l.dropStale c
  let l := l.closeBlocks (c.column < ·)
  match c.here with
  | none => return (← (l.closeBlocks fun _ => true).dropKey, none)
  | some x =>
    let (l', c') ← l.token c x
    if let some f := c'.broken? then throw f
    return (← l'.dropStale c', some c')

/-- The layout in which a fault follows the settled tokens. -/
def breakOff (l : Layout) (f : DocumentFault) : Layout :=
  { l with tokens := .unreadable f :: l.tokens.drop (l.count - l.settled), count := l.settled + 1 }

/-- The layout behind all tokens from the cursor on. -/
def complete : Nat → Layout → Cursor → Layout
  | 0, l, _ => l
  | fuel + 1, l, c =>
    match l.advance c with
    | .ok (l', some c') => complete fuel l' c'
    | .ok (l', none) => l'
    | .error f => l.breakOff f

end Layout

/-- The tokens of a text. A mark of the byte order may come first. -/
def Token.ofSource (s : Source) : List Token :=
  let c := Cursor.start s.text s.ending
  let c := if (c.here.map isOrderMark).getD false then c.next else c
  (Layout.complete c.left .start c).tokens.reverse

end Yan85.Document
