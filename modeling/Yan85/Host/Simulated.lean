import Yan85.Host.Basic
import Yan85.Ordered

/-! # A simulated host

* `Simulated`: files by path, streams by descriptor, and a record of all requests.
* `Simulated.host`: opening gives the lowest free descriptor, reading takes the next bytes of a
  stream, writing collects bytes by descriptor; each stream may limit or refuse its transfers.
-/

namespace Yan85
set_option autoImplicit false

/-- What is behind a descriptor: the bytes still to be read, the most bytes that one transfer moves,
and the refusals. -/
structure Stream where
  rest : List UInt8
  readMost : Option Nat
  writeMost : Option Nat
  readRefusal : Option HostFailure
  writeRefusal : Option HostFailure
  deriving Repr, Inhabited

/-- A file: the stream that opening it gives, or a refusal to open it. -/
structure SimulatedFile where
  stream : Stream
  openRefusal : Option HostFailure
  deriving Repr, Inhabited

/-- A request as it is recorded. -/
inductive Request
  | opened (path : List UInt8) (fd : Option Nat)
  | read (fd count : Int)
  | wrote (fd : Int) (length : Nat)
  | closed (fd : Nat)
  | slept (seconds : Int)
  deriving Repr, Inhabited

/-- The state of a simulated host. -/
structure Simulated where
  files : Ordered (List UInt8) SimulatedFile
  streams : Ordered Int Stream
  firstDescriptor : Nat
  closeRefused : List Nat
  /-- All requests so far, in order. -/
  requests : Array Request
  /-- All bytes written so far, by descriptor. -/
  output : Ordered Int (List UInt8)

namespace Simulated

/-- The refusal of a path that no file has. -/
def noSuchFile : HostFailure := ⟨2, "No such file or directory"⟩

/-- The refusal of a descriptor that is not open, or not open for this. -/
def badDescriptor : HostFailure := ⟨9, "Bad file descriptor"⟩

/-- A host without files and descriptors. -/
def empty : Simulated := ⟨.empty, .empty, 3, [], .empty, .empty⟩

/-- The lowest descriptor from the first one on that is not in use. -/
def freeDescriptor (s : Simulated) : Nat :=
  let candidates := (List.range (s.streams.entries.length + 1)).map (s.firstDescriptor + ·)
  (candidates.find? fun (fd : Nat) => !s.streams.keys.contains (fd : Int)).getD s.firstDescriptor

def note (s : Simulated) (r : Request) : Simulated := { s with requests := s.requests.push r }

def openFile (path : List UInt8) (s : Simulated) : Except HostFailure Nat × Simulated :=
  match s.files.find? path with
  | none => (.error noSuchFile, s.note (.opened path none))
  | some file =>
    match file.openRefusal with
    | some f => (.error f, s.note (.opened path none))
    | none =>
      let fd := s.freeDescriptor
      let stream := { file.stream with writeRefusal := some badDescriptor }
      (.ok fd, { s with streams := s.streams.insert fd stream }.note (.opened path (some fd)))

/-- A number of bytes under a limit. -/
def capped (limit : Option Nat) (n : Nat) : Nat := limit.elim n (min n)

def read (fd count : Int) (s : Simulated) : Except HostFailure (List UInt8) × Simulated :=
  let s' := s.note (.read fd count)
  match s.streams.find? fd with
  | none => (.error badDescriptor, s')
  | some stream =>
    match stream.readRefusal with
    | some f => (.error f, s')
    | none =>
      let n := capped stream.readMost count.toNat
      (.ok (stream.rest.take n),
        { s' with streams := s.streams.insert fd { stream with rest := stream.rest.drop n } })

def write (fd : Int) (data : List UInt8) (s : Simulated) : Except HostFailure Nat × Simulated :=
  let s' := s.note (.wrote fd data.length)
  match s.streams.find? fd with
  | none => (.error badDescriptor, s')
  | some stream =>
    match stream.writeRefusal with
    | some f => (.error f, s')
    | none =>
      let taken := data.take (capped stream.writeMost data.length)
      let before := (s.output.find? fd).getD []
      (.ok taken.length, { s' with output := s.output.insert fd (before ++ taken) })

def close (fd : Nat) (s : Simulated) : Except HostFailure Unit × Simulated :=
  let s' := { s.note (.closed fd) with streams := s.streams.erase fd }
  if s.streams.keys.contains (fd : Int) && !s.closeRefused.contains fd then (.ok (), s')
  else (.error badDescriptor, s')

def sleep (seconds : Int) (s : Simulated) : Simulated := s.note (.slept seconds)

/-- The simulated host, which waits for any number of seconds. -/
def host : Host Simulated where
  openFile := openFile
  read := read
  write := write
  close := close
  sleepRefusal _ := none
  sleepRefusal_byteValue _ := rfl
  sleep := sleep

end Simulated

end Yan85
