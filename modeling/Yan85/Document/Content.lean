import Yan85.Value.Compare
import Yan85.Value.View

/-! # Contents of documents

* `Object`: what a node stands for. The parts of a collection are given by the numbers of their
  nodes, so a collection may be inside itself.
* `Key`: a key of a mapping, and when two keys are the same.
* `Content.value`: the value at a node. A collection inside itself is closed there.
* `Content.view`: a content as a view, whose places are the nodes.
-/

namespace Yan85.Document
set_option autoImplicit false

/-- A key of a mapping. `origin` tells values apart that are not equal to themselves: keys of one
origin are the same. -/
structure Key where
  value : Value
  origin : Nat

namespace Key

def same (a b : Key) : Bool := a.origin == b.origin || a.value.same b.value

/-- The entries with `x` under the key `k`; a key that is there keeps its first form and its
place. -/
def insert {α : Type} (k : Key) (x : α) : List (Key × α) → List (Key × α)
  | [] => [(k, x)]
  | e :: es => if e.1.same k then (e.1, x) :: es else e :: insert k x es

end Key

/-- What a node stands for. -/
inductive Object
  | atom (k : Key)
  | list (items : List Nat)
  | pairs (items : List (Nat × Nat))
  | map (entries : List (Key × Nat))
  | set (keys : List Key)

/-- What the nodes of a document stand for, and the number of the node that is the document. -/
structure Content where
  objects : Array Object
  root : Nat

namespace Content

/-- The content of a text without document. -/
def absent : Content := ⟨#[.atom ⟨.null, 0⟩], 0⟩

/-- The value at the node `i` inside of the collections `around`. -/
def valueWithin (c : Content) : Nat → List Nat → Nat → Value
  | 0, _, _ => .null
  | fuel + 1, around, i =>
    let value := valueWithin c fuel (i :: around)
    let unlessInside (brackets : String × String) (v : Unit → Value) : Value :=
      if around.contains i then .enclosing brackets else v ()
    match c.objects[i]? with
    | none => .null
    | some (.atom k) => k.value
    | some (.list is) => unlessInside ("[", "]") fun _ => .list (is.map value)
    | some (.pairs ps) =>
      unlessInside ("[", "]") fun _ => .list (ps.map fun p => .pair (value p.1) (value p.2))
    | some (.map es) =>
      unlessInside ("\x7b", "\x7d") fun _ => .map (es.map fun e => (e.1.value, value e.2))
    | some (.set ks) => .set (ks.map (·.value))

/-- The value at a node. No way into a content passes more collections than there are nodes without
passing one again. -/
def value (c : Content) (i : Nat) : Value := c.valueWithin (c.objects.size + 1) [] i

/-- What a reader of entries sees at a node. -/
def opened (c : Content) (i : Nat) : Opened Nat :=
  match c.objects[i]? with
  | none => .null
  | some (.atom k) =>
    match k.value with
    | .null => .null
    | v => .other v.kind
  | some (.list _) => .other (Value.list []).kind
  | some (.pairs _) => .other (Value.list []).kind
  | some (.map es) => .map (es.map fun e => (e.1.value, e.2))
  | some (.set _) => .other (Value.set []).kind

/-- A content as a view. -/
def view (c : Content) : View Nat := ⟨c.opened, c.value⟩

/-- Whether the document is null, false, zero or empty. -/
def isBlank (c : Content) : Bool :=
  match c.objects[c.root]? with
  | none => true
  | some (.atom k) => k.value.isBlank
  | some (.list is) => is.isEmpty
  | some (.pairs ps) => ps.isEmpty
  | some (.map es) => es.isEmpty
  | some (.set ks) => ks.isEmpty

end Content

end Yan85.Document
