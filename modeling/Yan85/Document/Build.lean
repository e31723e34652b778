import Yan85.Document.Content
import Yan85.Document.Node
import Yan85.Document.Scalar

/-! # From nodes to contents

* `Builder`: the nodes, which merging changes, and the objects that are built for them.
* `Builder.flatten`: a mapping takes in the entries of the mappings under its merge keys.
* `Builder.build`: the object of a node. A collection is empty at first and waits to be filled, so
  that it may be inside itself.
* `Content.ofGraph`: the content of a document. Collections are filled in the order in which they
  were built; of several faults the first one that is met counts.
-/

namespace Yan85.Document
set_option autoImplicit false

/-- The nodes of a document, the objects of those that are built, and the numbers of the collections
that wait to be filled, the last one first. -/
structure Site where
  nodes : Array Node
  objects : Array (Option Object)
  waiting : List Nat

/-- A part of the building of a content. -/
abbrev Builder (α : Type) := StateT Site (Except DocumentFault) α

namespace Builder

def node (i : Nat) : Builder Node := do return ((← get).nodes[i]?).getD .absent

def setNode (i : Nat) (n : Node) : Builder Unit :=
  modify fun s => { s with nodes := s.nodes.setIfInBounds i n }

def setObject (i : Nat) (o : Object) : Builder Unit :=
  modify fun s => { s with objects := s.objects.setIfInBounds i (some o) }

/-- The entries of a mapping. -/
def entries (i : Nat) : Builder (List (Nat × Nat)) := do
  match ← node i with
  | .mapping _ es => return es
  | _ => throw .malformed

/-- The items of a sequence. -/
def items (i : Nat) : Builder (List Nat) := do
  match ← node i with
  | .sequence _ is => return is
  | _ => throw .malformed

/-! ## Merge keys -/

/-- The first entry whose key has a tag. -/
def entryTagged? (t : Tag) (es : List (Nat × Nat)) : Builder (Option (Nat × Nat)) := do
  let nodes := (← get).nodes
  return es.find? fun e => (nodes[e.1]?).any fun n => n.tag == t

/-- A node with the tag of a key that stands for its mapping becomes an ordinary key. -/
def makeOrdinary (i : Nat) : Builder Unit := do
  match ← node i with
  | .scalar .value s => setNode i (.scalar .text s)
  | .sequence .value is => setNode i (.sequence .text is)
  | .mapping .value es => setNode i (.mapping .text es)
  | _ => return ()

/-- Replaces the entries of a mapping. -/
def setEntries (i : Nat) (es : List (Nat × Nat)) : Builder Unit := do
  match ← node i with
  | .mapping t _ => setNode i (.mapping t es)
  | _ => return ()

/-- Puts entries before those of a mapping, all keys of which become ordinary. -/
def takeIn (i : Nat) (added : List (Nat × Nat)) : Builder Unit := do
  let es ← entries i
  es.forM fun e => makeOrdinary e.1
  setEntries i (added ++ es)

/-- Removes the merge keys from a mapping. The result are the entries `added` and those under these
keys; of several mappings under one key the last one comes first. -/
def absorb : Nat → Nat → List (Nat × Nat) → Builder (List (Nat × Nat))
  | 0, _, _ => throw .malformed
  | fuel + 1, i, added => do
    let es ← entries i
    match ← entryTagged? .merge es with
    | none => return added
    | some (k, v) =>
      setEntries i (es.erase (k, v))
      let flat := fun j => do
        takeIn j (← absorb fuel j [])
        entries j
      match ← node v with
      | .mapping _ _ => absorb fuel i (added ++ (← flat v))
      | .sequence _ js => absorb fuel i (added ++ (← js.mapM flat).reverse.flatten)
      | .scalar _ _ => throw .malformed

/-- The number of entries in all mappings. Every step of `absorb` removes one. -/
def entryCount : Builder Nat := do
  return (← get).nodes.foldl
    (fun n node => match node with
      | .mapping _ es => n + es.length
      | _ => n) 0

/-- A mapping takes in what is under its merge keys. -/
def flatten (i : Nat) : Builder Unit := do
  let fuel := (← entryCount) + 1
  takeIn i (← absorb fuel i [])

/-! ## Objects -/

/-- The text of a scalar, or of the scalar that stands for a mapping. -/
def scalarText : Nat → Nat → Builder Text
  | 0, _ => throw .malformed
  | fuel + 1, i => do
    match ← node i with
    | .scalar _ s => return s
    | .mapping _ es =>
      match ← entryTagged? .value es with
      | some e => scalarText fuel e.2
      | none => throw .malformed
    | .sequence _ _ => throw .malformed

/-- Builds a value that a text writes. All such values at one node are one, and so are those that
share their not-a-number. -/
def buildAtom (i : Nat) (read : Text → Except DocumentFault Value) : Builder Unit := do
  let size := (← get).nodes.size
  let t ← scalarText (size + 1) i
  let v ← read t
  let isShared := (← node i).tag == .float && Scalar.isSharedNan t
  setObject i (.atom ⟨v, if isShared then size else i⟩)

/-- Builds a collection, which waits to be filled. -/
def buildEmpty (i : Nat) (o : Object) : Builder Unit := do
  setObject i o
  modify fun s => { s with waiting := i :: s.waiting }

/-- A time; a mapping cannot stand for one. -/
def buildTime (i : Nat) : Builder Unit := do
  match ← node i with
  | .mapping _ _ =>
    let _ ← scalarText ((← get).nodes.size + 1) i
    throw .mappingAsTime
  | _ => buildAtom i Scalar.timestamp

/-- Builds the object of a node, unless it is built. -/
def build (i : Nat) : Builder Unit := do
  if (((← get).objects[i]?).getD none).isNone then
    match (← node i).tag with
    | .null => buildAtom i fun _ => .ok .null
    | .bool => buildAtom i Scalar.bool
    | .int => buildAtom i Scalar.int
    | .float => buildAtom i Scalar.float
    | .binary => buildAtom i Scalar.binary
    | .timestamp => buildTime i
    | .text => buildAtom i fun s => .ok (.text s)
    | .sequence => buildEmpty i (.list [])
    | .omap | .pairs => buildEmpty i (.pairs [])
    | .mapping => buildEmpty i (.map [])
    | .set => buildEmpty i (.set [])
    | .merge | .value | .unknown => throw .malformed

/-- The key at a node. A collection is none. -/
def key (i : Nat) : Builder Key := do
  build i
  match ((← get).objects[i]?).getD none with
  | some (.atom k) => return k
  | _ => throw .malformed

/-- The entries of a mapping, later ones overriding earlier ones. -/
def buildEntries (i : Nat) : Builder (List (Key × Nat)) := do
  flatten i
  (← entries i).foldlM
    (fun es e => do
      let k ← key e.1
      build e.2
      return k.insert e.2 es) []

/-- The only entry of a mapping that stands for a pair. -/
def buildPair (i : Nat) : Builder (Nat × Nat) := do
  match ← entries i with
  | [e] =>
    build e.1
    build e.2
    return e
  | _ => throw .malformed

/-- Fills a collection. -/
def fill (i : Nat) : Builder Unit := do
  match (← node i).tag with
  | .sequence =>
    let is ← items i
    is.forM build
    setObject i (.list is)
  | .omap | .pairs => setObject i (.pairs (← (← items i).mapM buildPair))
  | .mapping => setObject i (.map (← buildEntries i))
  | .set => setObject i (.set ((← buildEntries i).map (·.1)))
  | _ => return ()

/-- Fills all collections that wait, in the order in which they were built. -/
def fillAll : Nat → Builder Unit
  | 0 => return ()
  | fuel + 1 => do
    match (← get).waiting.reverse with
    | [] => return ()
    | is =>
      modify fun s => { s with waiting := [] }
      is.forM fill
      fillAll fuel

end Builder

/-- The content of the document whose nodes are given. -/
def Content.ofGraph (g : Graph) : Except DocumentFault Content := do
  let size := g.nodes.size
  let ((), s) ← (do Builder.build g.root; Builder.fillAll (size + 1)).run
    ⟨g.nodes, Array.replicate size none, []⟩
  return ⟨s.objects.map fun o => o.getD (.atom ⟨.null, size⟩), g.root⟩

end Yan85.Document
