import Yan85.Value.Basic

/-! # Equality and order of values

* `Number`: the numbers among the values; truth values count as 0 and 1, and a whole number and a
  float are compared by their exact values.
* `same`: equal as keys and as contents; maps are equal whatever the order of their entries.
* `less?`: numbers, texts, byte strings, dates, times, lists, pairs and sets are ordered among
  themselves; between values of different kinds there is no order.
-/

namespace Yan85
set_option autoImplicit false

/-- A number: a whole one, or a float. -/
inductive Number
  | whole (i : Int)
  | real (x : Binary64)
  deriving DecidableEq, Repr

namespace Number

/-- The exact value in units of 2^-1074, of numbers that have one. -/
def scaled? : Number → Option Int
  | whole i => some (i * Int.ofNat (Nat.pow 2 1074))
  | real x => x.scaled?

/-- Where two numbers stand to each other; nothing stands anywhere to what is not a number. -/
def compare? : Number → Number → Option Ordering
  | whole i, whole j => some (compare i j)
  | real .nan, _ => none
  | _, real .nan => none
  | real (.infinite s), real (.infinite t) => some (if s = t then .eq else if s then .lt else .gt)
  | real (.infinite s), _ => some (if s then .lt else .gt)
  | _, real (.infinite s) => some (if s then .gt else .lt)
  | x, y => some (compare (x.scaled?.getD 0) (y.scaled?.getD 0))

end Number

namespace Value

/-- The number that a value is. -/
def number? : Value → Option Number
  | bool b => some (.whole (if b then 1 else 0))
  | int i => some (.whole i)
  | float x => some (.real x)
  | _ => none

/-- Whether `y` is a number equal to `x`. -/
def sameNumber (x : Number) : Option Number → Bool
  | some y => x.compare? y == some .eq
  | none => false

mutual

/-- Whether two values are equal. -/
def same : Value → Value → Bool
  | null, null => true
  | text s, text t => s == t
  | bytes s, bytes t => s == t
  | date d, date e => d == e
  | moment t, moment u => t.same u
  | list xs, list ys => sameItems xs ys
  | pair a b, pair c d => same a c && same b d
  | set xs, set ys => xs.length == ys.length && allWithin xs ys
  | map xs, map ys => xs.length == ys.length && allMatched xs ys
  | bool a, y => sameNumber (.whole (if a then 1 else 0)) y.number?
  | int i, y => sameNumber (.whole i) y.number?
  | float x, y => sameNumber (.real x) y.number?
  | _, _ => false
termination_by structural x => x

/-- Whether two lists are equal item by item. -/
def sameItems : List Value → List Value → Bool
  | [], [] => true
  | x :: xs, y :: ys => same x y && sameItems xs ys
  | _, _ => false
termination_by structural x => x

/-- Whether each item of the first list is in the second. -/
def allWithin : List Value → List Value → Bool
  | [], _ => true
  | x :: xs, ys => ys.any (fun y => same x y) && allWithin xs ys
termination_by structural x => x

/-- Whether each entry of the first list is in the second. -/
def allMatched : List (Value × Value) → List (Value × Value) → Bool
  | [], _ => true
  | e :: es, ys => ys.any (fun y => sameEntry e y) && allMatched es ys
termination_by structural x => x

/-- Whether two entries have equal keys and equal contents. -/
def sameEntry : Value × Value → Value × Value → Bool
  | (a, b), (c, d) => same a c && same b d
termination_by structural x => x

end

/-- A map with `v` at `k`; a key that is there keeps its first form and its place. -/
def insertEntry (k v : Value) : List (Value × Value) → List (Value × Value)
  | [] => [(k, v)]
  | e :: es => if same e.1 k then (e.1, v) :: es else e :: insertEntry k v es

/-- The map of a list of entries, later ones overriding earlier ones. -/
def ofEntries (es : List (Value × Value)) : Value :=
  map (es.foldl (fun m e => insertEntry e.1 e.2 m) [])

/-- Whether `x` is below `y`, if `y` is a number. -/
def lessNumber? (x : Number) : Option Number → Option Bool
  | some y => some (x.compare? y == some .lt)
  | none => none

mutual

/-- Whether `x` comes before `y`, if the two have an order. A set comes before those that hold its
items and more. -/
def less? : Value → Value → Option Bool
  | text s, text t => some (decide (s.codes < t.codes))
  | bytes s, bytes t => some (decide (s < t))
  | date d, date e => some (decide (d.ordinal < e.ordinal))
  | moment t, moment u => t.before? u
  | list xs, list ys => lessItems? xs ys
  | pair a b, pair c d =>
    if same a c then (if same b d then some false else less? b d) else less? a c
  | set xs, set ys => some (decide (xs.length < ys.length) && allWithin xs ys)
  | bool a, y => lessNumber? (.whole (if a then 1 else 0)) y.number?
  | int i, y => lessNumber? (.whole i) y.number?
  | float x, y => lessNumber? (.real x) y.number?
  | _, _ => none
termination_by structural x => x

/-- Lists are ordered by the first place at which they differ. -/
def lessItems? : List Value → List Value → Option Bool
  | [], ys => some (!ys.isEmpty)
  | _ :: _, [] => some false
  | x :: xs, y :: ys => if same x y then lessItems? xs ys else less? x y
termination_by structural x => x

end

/-- The position 0, 1 or 2 that a value is equal to. -/
def smallIndex? (v : Value) : Option (Fin 3) :=
  [(0 : Fin 3), 1, 2].find? fun i => same v (int i.val)

end Value

end Yan85
