import Yan85.CommandLine.Line
import Yan85.CommandLine.Options
import Yan85.Document.Read
import Yan85.Machine.Run

/-! # Sessions

* `Surroundings`: what a session finds around it.
* `Setup.load`: the encoding and the program that the options name.
* `conclude`: the ending of a run, with the descriptors given back.
* `CommandLine.respond`: the answer to a command line. There is none if the machine
  needs more rounds than are allowed.
-/

namespace Yan85.CommandLine
set_option autoImplicit false

open Yan85.Text

/-- The content of the file at a path. -/
abbrev Files := String → Except HostFailure (List UInt8)

/-- What a session finds around it: the convention for its arguments, what reads documents, and the
files. -/
structure Surroundings where
  convention : Convention
  read : Document.Reader
  files : Files

/-! ## Before the run -/

/-- Why a session does not start. No path holds a null character. -/
inductive SetupFault
  | nullInPath
  | file (path : String) (f : HostFailure)
  | document (f : DocumentFault)
  | code (f : Fault)

/-- A program with its encoding. -/
structure Setup where
  bindings : Bindings
  program : List Instruction

/-- The content of a file. -/
def content (files : Files) (path : String) : Except SetupFault (List UInt8) :=
  if path.toList.contains '\x00' then .error .nullInPath else (files path).mapError (.file path)

/-- The fault of a document that gives no encoding. -/
def SetupFault.ofLoad : LoadFault → SetupFault
  | .document f => document f
  | .bindings f => code (.binding f)

/-- The encoding at a path; without a path, or if the path is empty, the standard one. -/
def loadBindings (w : Surroundings) : Option String → Except SetupFault Bindings
  | none => .ok .standard
  | some path => do
    if path.isEmpty then return .standard
    (Bindings.ofBytes w.read (← content w.files path)).mapError .ofLoad

/-- The encoding first, then the program. -/
def Setup.load (w : Surroundings) (o : Options) : Except SetupFault Setup := do
  let b ← loadBindings w o.constants
  let program ← (decodeProgram b (← content w.files o.program)).mapError .code
  return ⟨b, program⟩

/-- A refusal of the host to give the content of a file. -/
def fileMessage (path : String) (f : HostFailure) : String :=
  f.message ++ ": " ++ Quoted.ofString path

/-! ## The run -/

/-- What a session leaves behind: its exit status, what it printed on the standard output and on the
standard error output, and the state of the host. -/
structure Transcript (σ : Type) where
  status : Int
  output : List String
  errors : List String
  host : σ

/-- What is printed, with a line break behind each piece. A piece with line breaks of its own fills
several lines. -/
def printed (pieces : List String) : String := String.join (pieces.map (· ++ "\n"))

/-- The number of lines that a text fills. -/
def lineCount (text : String) : Nat := text.toList.count '\n'

/-- A failure that no session reports. -/
inductive Breakdown
  | nullInPath
  | unsaidLimit
  | document (f : DocumentFault)
  | fault (f : Fault)

def Breakdown.message : Breakdown → String
  | nullInPath => "embedded null byte"
  | unsaidLimit => "a limit of steps without its number"
  | document f => f.message
  | fault f => f.message

/-- The answer to a command line. -/
inductive Answer (σ : Type)
  | help
  | misuse
  | ended (t : Transcript σ)
  | broken (f : Breakdown)

variable {σ : Type}

/-- The instructions that a machine fetched, one to a line. -/
def traceLines {b : Bindings} (m : Machine b σ) : List String :=
  m.observed.toList.map fun i => i.text b

/-- What is left behind by a machine that stopped as `m` and gave its descriptors back as `m'`. The
lines `failure` come between what was told before and after. -/
def transcript {b : Bindings} (o : Options) (status : Int) (failure : List String)
    (m m' : Machine b σ) : Transcript σ where
  status := status
  output := if o.traced then traceLines m else []
  errors :=
    Diagnostic.lines o.verbose m.diagnostics.toList ++ failure ++
      Diagnostic.lines o.verbose (m'.diagnostics.toList.drop m.diagnostics.size)
  host := m'.host

/-- The answer of a machine that ended with `r` as `m`. -/
def conclude {b : Bindings} (H : Host σ) (o : Options) (r : Except Fault Int) (m : Machine b σ) :
    Answer σ :=
  let m' := Machine.close H m
  match r with
  | .ok status => .ended (transcript o status [] m m')
  | .error f =>
    if f.kind.isMachineFailure then .ended (transcript o 1 (f.lines m.registers) m m')
    else .broken (.fault f)

/-- The machine of a session before its first step. -/
def machine (o : Options) (s : Setup) (host : σ) : Machine s.bindings σ :=
  .fresh s.bindings s.program (.ofSize .main addressSpaceSize) o.wraps host

/-- The answer to a session that does not start. -/
def refuse (host : σ) : SetupFault → Answer σ
  | .nullInPath => .broken .nullInPath
  | .file path f => .ended ⟨1, [], [startLine (fileMessage path f)], host⟩
  | .document f => .broken (.document f)
  | .code f =>
    if f.kind.isMachineFailure then .ended ⟨1, [], [startLine f.message], host⟩
    else .broken (.fault f)

/-- The answer to options. -/
def run (H : Host σ) (w : Surroundings) (o : Options) (rounds : Nat) (host : σ) :
    Option (Answer σ) :=
  match Setup.load w o with
  | .error f => some (refuse host f)
  | .ok s => (Machine.run H o.limit rounds (machine o s host)).map fun r => conclude H o r.1 r.2

/-- The answer to options that name a limit of steps without its number. -/
def runUnsaid (w : Surroundings) (o : Options) (host : σ) : Answer σ :=
  match Setup.load w o with
  | .error f => refuse host f
  | .ok _ => .broken .unsaidLimit

/-- The answer to a command line. -/
def respond (H : Host σ) (w : Surroundings) (args : List String) (rounds : Nat) (host : σ) :
    Option (Answer σ) :=
  match Options.ofArguments w.convention args with
  | .error .help => some .help
  | .error .misuse => some .misuse
  | .error (.unsaid o) => some (runUnsaid w o host)
  | .ok o => run H w o rounds host

end Yan85.CommandLine
