import Yan85.Document.Tag
import Yan85.Document.Token.Basic

/-! # Nodes of a document

* `Node`: scalars, sequences and mappings with their tags. The parts of a node are given by their
  numbers, so an alias is the number of the node that it refers to, and a node may be inside itself.
* `Graph`: the nodes of a document, and the number of the one that is the document.
* `Graph.ofTokens`: the graph of a document; no document gives no graph, and two are too many.
-/

namespace Yan85.Document
set_option autoImplicit false

/-- A node of a document; the numbers are those of other nodes. -/
inductive Node
  | scalar (tag : Tag) (text : Text)
  | sequence (tag : Tag) (items : List Nat)
  | mapping (tag : Tag) (entries : List (Nat × Nat))
  deriving DecidableEq, Repr

namespace Node

/-- The scalar that stands where a node is left out. -/
def absent : Node := scalar .null (.ofString "")

def tag : Node → Tag
  | scalar t _ => t
  | sequence t _ => t
  | mapping t _ => t

end Node

/-- The nodes of a document. -/
structure Graph where
  nodes : Array Node
  root : Nat

namespace Graph

/-- What is known while nodes are read: the tokens to come, the nodes so far, the numbers of those
that have an anchor, and what the handles of tags stand for. -/
structure Progress where
  tokens : List Token
  nodes : Array Node
  anchors : List (String × Nat)
  handles : List (String × String)

/-- A part of the reading of nodes. -/
abbrev Reader (α : Type) := StateT Progress (Except DocumentFault) α

/-- The handles that need no directive. -/
def standardHandles : List (String × String) := [("!", "!"), ("!!", Tag.standardSpace)]

namespace Reader

/-- The next token. Nothing goes on at a text that is no token. -/
def peek : Reader (Option Token) := do
  match (← get).tokens.head? with
  | some (.unreadable f) => throw f
  | t => return t

def drop : Reader Unit := modify fun s => { s with tokens := s.tokens.tail }

/-- A new node. -/
def add (n : Node) : Reader Nat :=
  modifyGet fun s => (s.nodes.size, { s with nodes := s.nodes.push n })

/-- A new node that is left out. -/
def addAbsent : Reader Nat := add .absent

/-- What `read` gives, or an absent node if one of the tokens `ends` comes next. -/
def optional (ends : List Token) (read : Reader Nat) : Reader Nat := do
  match ← peek with
  | some t => if ends.contains t then addAbsent else read
  | none => read

/-! ## Anchors and tags -/

/-- Gives a node its anchor, which no other node may have. -/
def claim (anchor : Option String) (i : Nat) : Reader Nat := do
  match anchor with
  | some a =>
    if ((← get).anchors.lookup a).isSome then throw .malformed
    modify fun s => { s with anchors := (a, i) :: s.anchors }
  | none => pure ()
  return i

/-- A collection, whose number is known under its anchor while its content is read. -/
def collection (anchor : Option String) (read : Reader Node) : Reader Nat := do
  let i ← claim anchor (← addAbsent)
  let n ← read
  modify fun s => { s with nodes := s.nodes.setIfInBounds i n }
  return i

def anchor? : Reader (Option String) := do
  match ← peek with
  | some (.anchor a) => drop; return some a
  | _ => return none

def tag? : Reader (Option (Option String × String)) := do
  match ← peek with
  | some (.tag handle suffix) => drop; return some (handle, suffix)
  | _ => return none

/-- Anchor and tag of a node, in either order. -/
def properties : Reader (Option String × Option (Option String × String)) := do
  match ← anchor? with
  | some a => return (some a, ← tag?)
  | none =>
    match ← tag? with
    | some t => return (← anchor?, some t)
    | none => return (none, none)

/-- The complete text of a tag. -/
def completeTag : Option (Option String × String) → Reader (Option String)
  | none => return none
  | some (none, suffix) => return some suffix
  | some (some handle, suffix) => do
    match (← get).handles.lookup handle with
    | some space => return some (space ++ suffix)
    | none => throw .malformed

end Reader

/-- The type of a node whose tag is `tag`; one exclamation mark says no more than no tag. -/
def resolve (tag : Option String) (standard : Tag) : Tag :=
  match tag with
  | none => standard
  | some s => if s = "!" then standard else Tag.ofText s

/-- A scalar. Its text decides on its type if it is plain, or if its tag is one exclamation mark. -/
def ofScalar (tag : Option String) (text : Text) (plain : Bool) : Node :=
  let standard := if tag.isSome || plain then Tag.ofPlain text else .text
  .scalar (resolve tag standard) text

open Reader

mutual

/-- A node. Collections by indentation are read if `block` is true, and items in the column of their
parent if `indentless` is true. -/
def node : Nat → Bool → Bool → Reader Nat
  | 0, _, _ => throw .malformed
  | fuel + 1, block, indentless => do
    match ← peek with
    | some (.alias a) =>
      drop
      match (← get).anchors.lookup a with
      | some i => return i
      | none => throw .malformed
    | _ =>
      let (anchor, written) ← properties
      let tag ← completeTag written
      let list (read : Reader (List Nat)) : Reader Nat :=
        collection anchor do return .sequence (resolve tag .sequence) (← read)
      let map (read : Reader (List (Nat × Nat))) : Reader Nat :=
        collection anchor do return .mapping (resolve tag .mapping) (← read)
      match ← peek, block, indentless with
      | some .blockEntry, _, true => list (indentlessItems fuel)
      | some (.scalar text plain), _, _ =>
        drop
        claim anchor (← add (ofScalar tag text plain))
      | some .flowSequenceStart, _, _ => drop; list (flowItems fuel true)
      | some .flowMappingStart, _, _ => drop; map (flowEntries fuel true)
      | some .blockSequenceStart, true, _ => drop; list (blockItems fuel)
      | some .blockMappingStart, true, _ => drop; map (blockEntries fuel)
      | _, _, _ =>
        if anchor.isNone && tag.isNone then throw .malformed
        claim anchor (← add (ofScalar tag (.ofString "") true))

/-- The items of a sequence by indentation. -/
def blockItems : Nat → Reader (List Nat)
  | 0 => throw .malformed
  | fuel + 1 => do
    match ← peek with
    | some .blockEntry =>
      drop
      let n ← optional [.blockEntry, .blockEnd] (node fuel true false)
      return n :: (← blockItems fuel)
    | some .blockEnd => drop; return []
    | _ => throw .malformed

/-- The items of a sequence in the column of its parent. -/
def indentlessItems : Nat → Reader (List Nat)
  | 0 => throw .malformed
  | fuel + 1 => do
    match ← peek with
    | some .blockEntry =>
      drop
      let n ← optional [.blockEntry, .key, .content, .blockEnd] (node fuel true false)
      return n :: (← indentlessItems fuel)
    | _ => return []

/-- The entries of a mapping by indentation. -/
def blockEntries : Nat → Reader (List (Nat × Nat))
  | 0 => throw .malformed
  | fuel + 1 => do
    match ← peek with
    | some .key =>
      drop
      let k ← optional [.key, .content, .blockEnd] (node fuel true true)
      let v ← (do
        match ← peek with
        | some .content => drop; optional [.key, .content, .blockEnd] (node fuel true true)
        | _ => addAbsent)
      return (k, v) :: (← blockEntries fuel)
    | some .blockEnd => drop; return []
    | _ => throw .malformed

/-- A content in flow style behind its key, absent unless a colon comes before it; `last` closes the
collection. -/
def flowContent : Nat → Token → Reader Nat
  | 0, _ => throw .malformed
  | fuel + 1, last => do
    match ← peek with
    | some .content => drop; optional [.flowEntry, last] (node fuel false false)
    | _ => addAbsent

/-- The items of a sequence in flow style. A key makes a mapping of one entry. -/
def flowItems : Nat → Bool → Reader (List Nat)
  | 0, _ => throw .malformed
  | fuel + 1, first => do
    let t ← peek
    if t == some .flowSequenceEnd then drop; return []
    if !first then
      if t == some .flowEntry then drop else throw .malformed
    match ← peek with
    | some .flowSequenceEnd => drop; return []
    | some .key =>
      drop
      let k ← optional [.content, .flowEntry, .flowSequenceEnd] (node fuel false false)
      let v ← flowContent fuel .flowSequenceEnd
      let i ← add (.mapping .mapping [(k, v)])
      return i :: (← flowItems fuel false)
    | _ =>
      let n ← node fuel false false
      return n :: (← flowItems fuel false)

/-- The entries of a mapping in flow style. A node without colon is a key. -/
def flowEntries : Nat → Bool → Reader (List (Nat × Nat))
  | 0, _ => throw .malformed
  | fuel + 1, first => do
    let t ← peek
    if t == some .flowMappingEnd then drop; return []
    if !first then
      if t == some .flowEntry then drop else throw .malformed
    match ← peek with
    | some .flowMappingEnd => drop; return []
    | some .key =>
      drop
      let k ← optional [.content, .flowEntry, .flowMappingEnd] (node fuel false false)
      let v ← flowContent fuel .flowMappingEnd
      return (k, v) :: (← flowEntries fuel false)
    | _ =>
      let k ← node fuel false false
      let v ← addAbsent
      return (k, v) :: (← flowEntries fuel false)

end

/-! ## Documents -/

/-- The handles that the directives before a document declare. There is one directive for the
version at most, and one for each handle. -/
def directives : Nat → Bool → List (String × String) → Reader (List (String × String))
  | 0, _, handles => return handles
  | fuel + 1, versioned, handles => do
    match ← peek with
    | some (.directive d) =>
      drop
      match d with
      | .version major =>
        if versioned || major != 1 then throw .malformed else directives fuel true handles
      | .tagHandle h space =>
        if (handles.lookup h).isSome then throw .malformed
        else directives fuel versioned ((h, space) :: handles)
      | .other => directives fuel versioned handles
    | _ => return handles

/-- The end of a document, behind which nothing may come but marks. -/
def finish : Nat → Reader Unit
  | 0 => return ()
  | fuel + 1 => do
    match ← peek with
    | some .documentEnd => drop; finish fuel
    | some _ =>
      let _ ← directives fuel false []
      let _ ← peek
      throw .malformed
    | none => return ()

/-- The one document of a text, if there is one. Directives need a mark behind them, and the
document after a mark may be left out. -/
def document (fuel : Nat) : Reader (Option Nat) := do
  match ← peek with
  | none => return none
  | some t =>
    let isMarked := match t with
      | .directive _ => true
      | .documentStart => true
      | _ => false
    let i ← (do
      if isMarked then
        let handles ← directives fuel false []
        modify fun s => { s with handles := handles ++ standardHandles }
        if (← peek) == some .documentStart then drop else throw .malformed
        match ← peek with
        | none | some (.directive _) | some .documentStart | some .documentEnd => addAbsent
        | some _ => node fuel true false
      else node fuel true false)
    finish fuel
    return some i

/-- The graph of the document that the tokens `ts` form, if there is one. -/
def ofTokens (ts : List Token) : Except DocumentFault (Option Graph) := do
  let (root, s) ← (document (3 * ts.length + 3)).run ⟨ts, #[], [], standardHandles⟩
  return root.map fun i => ⟨s.nodes, i⟩

end Graph

end Yan85.Document
