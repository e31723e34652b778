import Yan85.Text.IntegerLiteral

/-! # Options of a command line

* `Convention`: how the text is read that stands in one argument with the name of an option.
* `Options`: what a command line asks for.
* `Word`: what an argument is by itself; a long name may be cut short as long as it is the start of
  one name only.
* `Cluster`: the options in one argument; short names may be joined, and a value may follow the last
  one.
* `Options.ofArguments`: the options that the arguments give. They are read from left to right; what
  comes behind `--` is no option.
-/

namespace Yan85.CommandLine
set_option autoImplicit false

open Yan85.Text

/-- How the text is read that stands in one argument with the name of an option. The strict
convention takes the text of a value as it stands, lets an equals sign stand before every value and
nowhere else, and heeds the letters before an unknown one. The loose convention is older: the mark
`--` is no value, an equals sign may stand behind the first name only, there also before more
letters, and an argument with an unknown letter is refused as a whole. -/
inductive Convention
  | strict | loose
  deriving DecidableEq, Repr

/-- What a command line asks for: the path of the program, the path of the document with the
encoding, whether instructions are printed, whether the stack wraps, the greatest number of steps if
there is one, and whether everything is told. -/
structure Options where
  program : String
  constants : Option String
  traced : Bool
  wraps : Bool
  limit : Option Int
  verbose : Bool
  deriving DecidableEq, Repr

/-- Why arguments give no options: they ask for help, they are wrong, or they name a limit of steps
without its number. -/
inductive Refusal
  | help
  | misuse
  | unsaid (o : Options)
  deriving DecidableEq, Repr

/-! ## Arguments by themselves -/

/-- What an option is about. -/
inductive Switch
  | help | constants | trace | wrap | limit | verbose
  deriving DecidableEq, Repr

/-- The names of the options. -/
def names : List (List Char × Switch) :=
  [("-h", .help), ("--help", .help), ("-c", .constants), ("--constants", .constants),
   ("-d", .trace), ("--disassemble", .trace), ("--wrap-stack", .wrap), ("--max-steps", .limit),
   ("-v", .verbose), ("--verbose", .verbose)].map fun (e : String × Switch) => (e.1.toList, e.2)

/-- Whether an option has a value. -/
def Switch.takesValue : Switch → Bool
  | .constants => true
  | .limit => true
  | _ => false

/-- The text behind the name of an option, and whether an equals sign stands between the two. -/
structure Attached where
  isMarked : Bool
  text : List Char
  deriving DecidableEq, Repr

/-- What an argument is by itself. -/
inductive Word
  | value
  | option (w : Switch) (isShort : Bool) (attached : Option Attached)
  | unknown
  | ambiguous
  deriving DecidableEq, Repr

/-- Whether a text has the form of a negative number. -/
def isNegativeNumber (cs : List Char) : Bool :=
  let isDigit := fun c => (decimalDigit? c).isSome
  let body := if cs.getLast? == some '\n' then cs.dropLast else cs
  match body with
  | '-' :: r =>
    match r.dropWhile isDigit with
    | [] => !r.isEmpty
    | '.' :: f => !f.isEmpty && f.all isDigit
    | _ => false
  | _ => false

/-- The ways to read an argument as an option whose name is cut short, or which is joined with more
text. -/
def readings (cs name : List Char) (attached : Option Attached) : List Word :=
  match cs with
  | '-' :: '-' :: _ =>
    (names.filter fun e => name.isPrefixOf e.1).map fun e => .option e.2 false attached
  | _ =>
    (names.filter fun e => e.1 == cs.take 2).map fun e =>
      .option e.2 true (some ⟨false, cs.drop 2⟩)

/-- What an argument is by itself. -/
def Word.ofArgument (s : String) : Word :=
  let cs := s.toList
  let isShort := cs[1]? != some '-'
  if cs.head? != some '-' then .value
  else
    match names.lookup cs with
    | some w => .option w isShort none
    | none =>
      if cs.length = 1 then .value
      else
        let name := cs.takeWhile (· != '=')
        let attached : Option Attached :=
          if name.length < cs.length then some ⟨true, cs.drop (name.length + 1)⟩ else none
        match attached, names.lookup name with
        | some _, some w => .option w isShort attached
        | _, _ =>
          match readings cs name attached with
          | [r] => r
          | [] => if isNegativeNumber cs || cs.contains ' ' then .value else .unknown
          | _ => .ambiguous

/-! ## Arguments in order -/

/-- An option with its value, if it has one. -/
structure Setting where
  switch : Switch
  value : Option String

/-- What one argument with options in it means: settings, an option that takes the next argument as
its value, and whether there is more in it than has a meaning. -/
structure Cluster where
  settings : List Setting
  pending : Option Switch
  surplus : Bool

namespace Cluster

/-- The cluster of one option without attached text. -/
def single (w : Switch) : Cluster :=
  if w.takesValue then ⟨[], some w, false⟩ else ⟨[⟨w, none⟩], none, false⟩

section Attached

variable (conv : Convention)

/-- The cluster of an option with an attached value. -/
def valued (w : Switch) (cs : List Char) : Cluster :=
  ⟨[⟨w, if conv = .loose ∧ cs = ['-', '-'] then none else some (String.ofList cs)⟩], none, false⟩

/-- The value in the text behind a letter. -/
def valueText : List Char → List Char
  | '=' :: cs => if conv = .strict then cs else '=' :: cs
  | cs => cs

/-- The cluster of a short option with the text behind it, which is its value if it takes one, and
otherwise starts with the letter of another short option. -/
def joined : List Char → Switch → Except Refusal Cluster
  | [], w => .ok (single w)
  | c :: cs, w =>
    if w.takesValue then .ok (valued conv w (valueText conv (c :: cs)))
    else if conv = .strict ∧ (c = '=' ∨ c = '-') then .error .misuse
    else
      match names.lookup ['-', c] with
      | some next => (joined cs next).map fun r => { r with settings := ⟨w, none⟩ :: r.settings }
      | none => if conv = .strict then .ok ⟨[⟨w, none⟩], none, true⟩ else .error .misuse

/-- The cluster of an option. -/
def ofOption (w : Switch) (isShort : Bool) : Option Attached → Except Refusal Cluster
  | none => .ok (single w)
  | some a =>
    if w.takesValue then .ok (valued conv w a.text)
    else if !isShort || a.text.isEmpty || (conv == .strict && a.isMarked) then .error .misuse
    else joined conv a.text w

end Attached

end Cluster

/-- What the arguments so far give, whether there are more than have a meaning, and whether the last
limit of steps lacks its number. -/
structure Progress where
  program : Option String
  options : Options
  surplus : Bool
  unsaid : Bool

def Progress.start : Progress := ⟨none, ⟨"", none, false, false, none, false⟩, false, false⟩

/-- The effect of one setting. -/
def Progress.set (p : Progress) (s : Setting) : Except Refusal Progress :=
  let o := p.options
  match s.switch with
  | .help => .error .help
  | .constants => .ok { p with options := { o with constants := s.value } }
  | .trace => .ok { p with options := { o with traced := true } }
  | .wrap => .ok { p with options := { o with wraps := true } }
  | .limit =>
    match s.value.map fun t => IntegerLiteral.read 10 t.toList with
    | none => .ok { p with unsaid := true }
    | some (.ok n) => .ok { p with options := { o with limit := some n }, unsaid := false }
    | some (.error _) => .error .misuse
  | .verbose => .ok { p with options := { o with verbose := true } }

/-- The effect of an argument with options in it. -/
def Progress.apply (p : Progress) (c : Cluster) : Except Refusal Progress := do
  let q ← c.settings.foldlM set p
  return { q with surplus := q.surplus || c.surplus }

/-- The effect of an argument that is no option; only the first one has a place. -/
def Progress.take (p : Progress) (s : String) : Progress :=
  match p.program with
  | none => { p with program := some s }
  | some _ => { p with surplus := true }

/-- The effect of the arguments. `waiting` are the settings of the last argument whose last option
still needs its value. The mark `--` stands right before or right behind the path of the program. -/
def Progress.walk (conv : Convention) :
    List String → Option (List Setting × Switch) → Progress → Except Refusal Progress
  | [], none, p => .ok p
  | [], some _, _ => .error .misuse
  | s :: rest, some (settings, w), p =>
    if s != "--" && Word.ofArgument s == .value then do
      walk conv rest none (← (settings ++ [Setting.mk w (some s)]).foldlM set p)
    else .error .misuse
  | s :: rest, none, p =>
    if s = "--" then
      match p.program with
      | none => .ok (rest.foldl take p)
      | some _ => .ok { p with surplus := true }
    else
      match Word.ofArgument s with
      | .value =>
        if p.program.isNone && rest == ["--"] then .ok (p.take s)
        else walk conv rest none (p.take s)
      | .option w isShort attached => do
        let c ← Cluster.ofOption conv w isShort attached
        match c.pending with
        | some w' => walk conv rest (some (c.settings, w')) p
        | none => walk conv rest none (← p.apply c)
      | .unknown => walk conv rest none { p with surplus := true }
      | .ambiguous => .error .misuse

/-- The options that all arguments together give. -/
def Progress.finish (p : Progress) : Except Refusal Options :=
  match p.program with
  | none => .error .misuse
  | some program =>
    if p.surplus then .error .misuse
    else if p.unsaid then .error (.unsaid { p.options with program })
    else .ok { p.options with program }

/-- The options that the arguments give. An ambiguous argument is refused before anything else. -/
def Options.ofArguments (conv : Convention) (args : List String) : Except Refusal Options :=
  if (args.takeWhile (· != "--")).any fun s => Word.ofArgument s == .ambiguous then .error .misuse
  else Progress.walk conv args none .start >>= Progress.finish

end Yan85.CommandLine
