import Yan85.Host.Simulated

/-! # A simulated working directory

* `Directory`: files and folders under their paths.
* `Directory.find`: the place that a path leads to. It is followed part by part; only a folder has
  parts, an empty part and a single dot stay where they are, and two dots lead outwards.
* `Directory.read`: the content of the file at a path, or the refusal of the host. Outside of the
  directory there are folders, and no file but the null device.
-/

namespace Yan85
set_option autoImplicit false

/-- What a path names. -/
inductive Entry
  | file (data : List UInt8)
  | folder

/-- Files and folders under the parts of their paths. Where a path repeats, the last entry
counts. -/
structure Directory where
  entries : List (List String × Entry)

namespace Directory

/-! ## Refusals -/

def notDirectory : HostFailure := ⟨20, "Not a directory"⟩

def isDirectory : HostFailure := ⟨21, "Is a directory"⟩

def nameTooLong : HostFailure := ⟨36, "File name too long"⟩

/-! ## Paths -/

/-- The most bytes in a part of a path, and in a path with the byte that ends it. -/
def partLimit : Nat := 255

def pathLimit : Nat := 4096

/-- The parts of a path. -/
def parts (path : String) : List String := (path.toList.splitOn '/').map String.ofList

/-- A place that a path leads to: one in the directory, or a folder outside of it. -/
inductive Place
  | inside (path : List String)
  | outside

/-- What the parts `path` name. A folder may be known by what is in it only. -/
def entry? (d : Directory) (path : List String) : Option Entry :=
  match d.entries.reverse.lookup path with
  | some e => some e
  | none => if d.entries.any (path.isPrefixOf ·.1) || path.isEmpty then some .folder else none

def isFolder (d : Directory) : Place → Bool
  | .outside => true
  | .inside path =>
    match d.entry? path with
    | some .folder => true
    | _ => false

/-- The place to which one part of a path leads. -/
def follow (d : Directory) (p : Place) (part : String) : Except HostFailure Place :=
  if !d.isFolder p then .error notDirectory
  else if part = "" || part = "." then .ok p
  else if part = ".." then
    match p with
    | .inside (x :: xs) => .ok (.inside (x :: xs).dropLast)
    | _ => .ok .outside
  else if partLimit < part.utf8ByteSize then .error nameTooLong
  else
    match p with
    | .inside path =>
      if (d.entry? (path ++ [part])).isSome then .ok (.inside (path ++ [part]))
      else .error Simulated.noSuchFile
    | .outside => .error Simulated.noSuchFile

/-- The place that a path leads to. A slash at its start leads outside. -/
def find (d : Directory) (path : String) : Except HostFailure Place :=
  if path.isEmpty then .error Simulated.noSuchFile
  else if pathLimit ≤ path.utf8ByteSize then .error nameTooLong
  else (parts path).foldlM d.follow (if path.startsWith "/" then .outside else .inside [])

/-- The path of the null device, which is an empty file. -/
def nullDevice : String := "/dev/null"

/-- The content of the file at a path. -/
def read (d : Directory) (path : String) : Except HostFailure (List UInt8) := do
  if path = nullDevice then return []
  match ← d.find path with
  | .outside => throw isDirectory
  | .inside parts =>
    match d.entry? parts with
    | some (.file data) => return data
    | _ => throw isDirectory

end Directory

end Yan85
