import Yan85.CommandLine.Session
import Yan85.Host.Replay

/-! # The program

Runs a machine on the surroundings of the process. Each step is tried on a host of replies; a
request without a reply is performed, and the step is tried again with its reply.
-/

namespace Yan85.CommandLine
set_option autoImplicit false

/-- How the program is called. -/
def usage : String :=
  "usage: yan85-emu [-h] [-c CONSTANTS] [-d] [--wrap-stack] [--max-steps MAX_STEPS] [-v] program"

/-- A refusal of the system in the terms of a host. -/
def refusalOf : IO.Error → HostFailure
  | .noFileOrDirectory .. => ⟨2, "No such file or directory"⟩
  | .permissionDenied .. => ⟨13, "Permission denied"⟩
  | .inappropriateType .. => ⟨21, "Is a directory"⟩
  | _ => ⟨5, "Input/output error"⟩

/-- The descriptors that are open besides the three standard ones. -/
abbrev OpenFiles := IO.Ref (List (Nat × IO.FS.Handle))

/-- The stream behind a descriptor that can be read. -/
def source? (files : OpenFiles) (fd : Int) : IO (Option IO.FS.Stream) := do
  if fd = 0 then return some (← IO.getStdin)
  return ((← files.get).find? fun e => (e.1 : Int) == fd).map fun e => .ofHandle e.2

/-- The stream behind a descriptor that can be written. -/
def sink? (fd : Int) : IO (Option IO.FS.Stream) := do
  if fd = 1 then return some (← IO.getStdout)
  if fd = 2 then return some (← IO.getStderr)
  return none

/-- The refusal of a descriptor that cannot be used. -/
def badDescriptor : Reply := .refusal ⟨9, "Bad file descriptor"⟩

/-- Performs a request. -/
def perform (files : OpenFiles) : Demand → IO Reply
  | .openFile path => do
    match String.fromUTF8? ⟨path.toArray⟩ with
    | none => return .refusal ⟨2, "No such file or directory"⟩
    | some name =>
      let handle ← IO.FS.Handle.mk name .read
      let used := (← files.get).map (·.1)
      let fd := ((List.range (used.length + 1)).map (3 + ·)).find? fun n => !used.contains n
      files.modify ((fd.getD 3, handle) :: ·)
      return .number (fd.getD 3)
  | .read fd count => do
    match ← source? files fd with
    | some stream => return .bytes (← stream.read count.toNat.toUSize).toList
    | none => return badDescriptor
  | .write fd data => do
    match ← sink? fd with
    | some stream => stream.write ⟨data.toArray⟩; stream.flush; return .number data.length
    | none => return badDescriptor
  | .close fd => do
    if ((← files.get).map (·.1)).contains fd then
      files.modify fun es => es.filter fun e => e.1 != fd
      return .number 0
    else return badDescriptor
  | .sleep seconds => do
    IO.sleep (seconds.toNat * 1000).toUInt32
    return .number 0

/-- The reply to a request, where a refusal of the system is a reply too. -/
def reply (files : OpenFiles) (d : Demand) : IO Reply :=
  tryCatch (perform files d) fun e => return .refusal (refusalOf e)

/-- The result of `attempt` once all its requests have replies. `replies` are those so far. -/
partial def settle {α : Type} [Inhabited α] (files : OpenFiles) (demand? : α → Option Demand)
    (attempt : Replay → α) (replies : List Reply) : IO α := do
  let r := attempt ⟨replies, none⟩
  match demand? r with
  | none => return r
  | some d => settle files demand? attempt (replies ++ [← reply files d])

def printLines (stream : IO.FS.Stream) (ls : List String) : IO Unit := do
  for l in ls do
    stream.putStrLn l
  stream.flush

/-- Writes what a machine has told so far, and forgets it. -/
def report {b : Bindings} (o : Options) (m : Machine b Replay) : IO (Machine b Replay) := do
  if o.traced then printLines (← IO.getStdout) (traceLines m)
  printLines (← IO.getStderr) (Diagnostic.lines o.verbose m.diagnostics.toList)
  return { m with observed := .empty, diagnostics := .empty }

/-- The limit that stops a machine behind its next step. -/
def nextLimit {b : Bindings} (o : Options) (m : Machine b Replay) : Int :=
  o.limit.elim (m.steps + 1) (min (m.steps + 1))

/-- Ends a session. -/
def finish {b : Bindings} (files : OpenFiles) (o : Options) (r : Except Fault Int)
    (m : Machine b Replay) : IO UInt32 := do
  let demand? : Answer Replay → Option Demand
    | .ended t => t.host.demand
    | _ => none
  have : Inhabited (Answer Replay) := ⟨.help⟩
  let closed := fun host => conclude Replay.host o r { m with host := host }
  match ← settle files demand? closed [] with
  | .ended t =>
    printLines (← IO.getStdout) t.output
    printLines (← IO.getStderr) t.errors
    return (t.status % 256).toNat.toUInt32
  | .broken f => throw (IO.userError f.message)
  | _ => return 1

/-- Lets a machine run to its end, step by step. -/
partial def drive {b : Bindings} (files : OpenFiles) (o : Options) (m : Machine b Replay) :
    IO UInt32 := do
  let limit := nextLimit o m
  have : Inhabited (Except Fault Int × Machine b Replay) := ⟨(.ok 0, m)⟩
  let stepped := fun host =>
    (Machine.run Replay.host (some limit) 2 { m with host := host }).getD (.ok 0, m)
  let (r, m) ← settle files (fun x => x.2.host.demand) stepped []
  let m ← report o m
  match r with
  | .error (.stepLimit n) =>
    if some n = o.limit then finish files o r m else drive files o m
  | _ => finish files o r m

/-- The content of a file, or the refusal to give it. -/
def fetchFile (path : String) : IO (Except HostFailure (List UInt8)) :=
  tryCatch (return .ok (← IO.FS.readBinFile path).toList) fun e => return .error (refusalOf e)

/-- A session with options. -/
def start (o : Options) : IO UInt32 := do
  let program ← fetchFile o.program
  let constants ← o.constants.mapM fetchFile
  let contents : Files := fun path =>
    if o.constants = some path then constants.getD program else program
  match Setup.load ⟨.strict, Document.Content.ofBytes, contents⟩ o with
  | .error f =>
    match refuse () f with
    | .ended t => printLines (← IO.getStderr) t.errors; return (t.status % 256).toNat.toUInt32
    | .broken f => throw (IO.userError f.message)
    | _ => return 1
  | .ok s => drive (← IO.mkRef []) o (machine o s ⟨[], none⟩)

end Yan85.CommandLine

open Yan85.CommandLine in
/-- Runs a program as the arguments ask for. -/
def main (args : List String) : IO UInt32 := do
  match Options.ofArguments .strict args with
  | .error .help => IO.println usage; return 0
  -- Under this convention no limit lacks its number, so what is left is a misuse.
  | .error _ => IO.eprintln usage; return 2
  | .ok o => start o
