import Yan85.Text.Basic

/-! # Tags

* `Tag`: what a node is said to be.
* `Tag.ofPlain`: what a scalar without quotes and tag is, which its text decides.
* Forms of numbers and of times, as texts.
-/

namespace Yan85.Document
set_option autoImplicit false

/-- The types that a node may have. `merge` is the key whose content is added to a mapping, `value`
the key whose content stands for a mapping. -/
inductive Tag
  | null | bool | int | float | binary | timestamp | omap | pairs | set | text | sequence | mapping
  | merge | value | unknown
  deriving DecidableEq, Repr

namespace Tag

/-- The names of the types that can be built. -/
def names : List (String × Tag) :=
  [("null", null), ("bool", bool), ("int", int), ("float", float), ("binary", binary),
   ("timestamp", timestamp), ("omap", omap), ("pairs", pairs), ("set", set), ("str", text),
   ("seq", sequence), ("map", mapping), ("merge", merge), ("value", value)]

/-- What two exclamation marks stand for. -/
def standardSpace : String := "tag:yaml.org,2002:"

/-- The type that a complete tag names. -/
def ofText (s : String) : Tag :=
  (names.find? fun e => s == standardSpace ++ e.1).elim unknown (·.2)

/-! ## Forms of texts -/

def isDigit (c : Char) : Bool := '0' ≤ c && c ≤ '9'

/-- Digits and the underscores between them. -/
def isSpaced (c : Char) : Bool := isDigit c || c == '_'

/-- A text without the sign at its start. -/
def dropSign : List Char → List Char
  | '-' :: cs => cs
  | '+' :: cs => cs
  | cs => cs

/-- Whether `cs` is nonempty and consists of characters with the property `p`. -/
def isRun (p : Char → Bool) (cs : List Char) : Bool := !cs.isEmpty && cs.all p

/-- Nothing, or an exponent with its sign. -/
def isExponent : List Char → Bool
  | [] => true
  | e :: s :: cs => (e == 'e' || e == 'E') && (s == '+' || s == '-') && isRun isDigit cs
  | _ => false

/-- What follows the sixties, each behind a colon, at the start of a text; `none` if there is no
colon there or something else follows one. -/
def dropSixties : Nat → List Char → Option (List Char)
  | fuel + 1, ':' :: cs =>
    let digits := cs.takeWhile isDigit
    let rest := cs.dropWhile isDigit
    let small :=
      match digits with
      | [_] => true
      | [tens, _] => tens ≤ '5'
      | _ => false
    if small then
      match rest with
      | ':' :: _ => dropSixties fuel rest
      | _ => some rest
    else none
  | _, _ => none

/-- A number with a decimal point, a sixty-based one with a point, an infinity, or not-a-number. -/
def isFloat (cs : List Char) : Bool :=
  let u := dropSign cs
  let whole := u.takeWhile isSpaced
  let rest := u.dropWhile isSpaced
  let startsWithDigit := (whole.head?.map isDigit).getD false
  let pointed :=
    match rest with
    | '.' :: r => isExponent (r.dropWhile isSpaced)
    | _ => false
  let sixties :=
    match dropSixties cs.length rest with
    | some ('.' :: r) => r.all isSpaced
    | _ => false
  let fraction :=
    match cs with
    | '.' :: d :: r => isDigit d && isExponent (r.dropWhile isSpaced)
    | _ => false
  startsWithDigit && (pointed || sixties) || fraction ||
    [".inf", ".Inf", ".INF"].contains (String.ofList u) ||
    [".nan", ".NaN", ".NAN"].contains (String.ofList cs)

def isBinaryDigit (c : Char) : Bool := c == '0' || c == '1' || c == '_'

def isOctalDigit (c : Char) : Bool := '0' ≤ c && c ≤ '7' || c == '_'

def isHexDigit (c : Char) : Bool :=
  isSpaced c || 'a' ≤ c && c ≤ 'f' || 'A' ≤ c && c ≤ 'F'

/-- A whole number in base 2, 8, 10, 16 or 60. -/
def isInt (cs : List Char) : Bool :=
  match dropSign cs with
  | ['0'] => true
  | '0' :: 'b' :: r => isRun isBinaryDigit r
  | '0' :: 'x' :: r => isRun isHexDigit r
  | '0' :: r => isRun isOctalDigit r
  | d :: r =>
    isDigit d && (r.all isSpaced || dropSixties cs.length (r.dropWhile isSpaced) == some [])
  | [] => false

def boolWords : List String :=
  ["yes", "Yes", "YES", "no", "No", "NO", "true", "True", "TRUE", "false", "False", "FALSE",
   "on", "On", "ON", "off", "Off", "OFF"]

def nullWords : List String := ["~", "null", "Null", "NULL"]

/-! ## Times -/

/-- The parts of a time as it is written. -/
structure TimeText where
  hour : List Char
  minute : List Char
  second : List Char
  fraction : List Char
  /-- Nothing, universal time, or the sign, the hours and the minutes of a distance from it. -/
  zone : Option (Option (Bool × List Char × List Char))

/-- The parts of a date as it is written, with the time on it. -/
structure StampText where
  year : List Char
  month : List Char
  day : List Char
  time : Option TimeText

/-- The digits at the start of a text, at least `least` and at most `most` of them. -/
def digitsBetween (least most : Nat) (cs : List Char) : Option (List Char × List Char) :=
  let ds := (cs.take most).takeWhile isDigit
  if least ≤ ds.length then some (ds, cs.drop ds.length) else none

/-- What follows the character `x`. -/
def after (x : Char) : List Char → Option (List Char)
  | [] => none
  | c :: cs => if c = x then some cs else none

def isBlank (c : Char) : Bool := c == ' ' || c == '\t'

/-- The zone that ends a time; blanks may come before it. -/
def zone? (cs : List Char) : Option (Option (Option (Bool × List Char × List Char))) := do
  if cs.isEmpty then return none
  match cs.dropWhile isBlank with
  | ['Z'] => return some none
  | s :: r =>
    if s != '+' && s != '-' then failure
    let (hour, r1) ← digitsBetween 1 2 r
    if r1.isEmpty then return some (some (s == '-', hour, []))
    let (minute, r2) ← digitsBetween 2 2 (← after ':' r1)
    if r2.isEmpty then return some (some (s == '-', hour, minute)) else failure
  | [] => failure

/-- The time behind a date. -/
def time? (cs : List Char) : Option TimeText := do
  let (hour, r1) ← digitsBetween 1 2 cs
  let (minute, r2) ← digitsBetween 2 2 (← after ':' r1)
  let (second, r3) ← digitsBetween 2 2 (← after ':' r2)
  match r3 with
  | '.' :: r4 =>
    return ⟨hour, minute, second, r4.takeWhile isDigit, ← zone? (r4.dropWhile isDigit)⟩
  | _ => return ⟨hour, minute, second, [], ← zone? r3⟩

/-- A date, alone or with a time behind the letter T or blanks. -/
def stamp? (cs : List Char) : Option StampText := do
  let (year, r1) ← digitsBetween 4 4 cs
  let (month, r2) ← digitsBetween 1 2 (← after '-' r1)
  let (day, r3) ← digitsBetween 1 2 (← after '-' r2)
  match r3 with
  | [] => return ⟨year, month, day, none⟩
  | x :: r =>
    if x == 'T' || x == 't' then return ⟨year, month, day, some (← time? r)⟩
    else if isBlank x then return ⟨year, month, day, some (← time? (r.dropWhile isBlank))⟩
    else failure

/-- A date with a time, or a date alone with two digits each for month and day. -/
def isStamp (cs : List Char) : Bool :=
  match stamp? cs with
  | some s => s.time.isSome || cs.length == 10
  | none => false

/-! ## Plain scalars -/

/-- A text without the line break at its end. -/
def dropLastBreak (cs : List Char) : List Char :=
  if cs.getLast? == some '\n' then cs.dropLast else cs

/-- The type of a scalar without quotes and tag. A line break at the end of the text does not
count. -/
def ofPlain (text : Text) : Tag :=
  let cs := dropLastBreak text.chars
  let t := String.ofList cs
  if text.isEmpty || nullWords.contains t then null
  else if boolWords.contains t then bool
  else if isFloat cs then float
  else if isInt cs then int
  else if isStamp cs then timestamp
  else if t == "<<" then merge
  else if t == "=" then value
  else if ["!", "&", "*"].contains t then unknown
  else .text

end Tag

end Yan85.Document
