import Yan85.Machine.Basic
import Yan85.RegisterFile

/-! # Lines of a command line session

* `Diagnostic.line`: what a machine tells, as a line; all but warnings only if everything is told.
* `Fault.lines`: a failure of a machine, with the registers that it leaves behind.
-/

namespace Yan85
set_option autoImplicit false

open Yan85.Text

namespace Diagnostic

/-- Whether something went wrong without stopping the machine. -/
def isWarning : Diagnostic → Bool
  | notClosed .. => true
  | _ => false

/-- A path without quotes; bytes that are not well formed stand as escapes. -/
def plainPath (path : List UInt8) : String := (Text.mk (Utf8.codePoints path)).plain

/-- The part of the machine that tells something, and what it tells. -/
def parts : Diagnostic → String × String
  | executed index text registers =>
    ("yan85_emu.core.cpu",
      Hex.padded (byteValue index) ++ ": " ++ text ++ " " ++ RegisterFile.lineOf registers)
  | called s x y z =>
    ("yan85_emu.syscall.bridge",
      "syscall " ++ Enumerated.name s ++ "(" ++ ", ".intercalate ([x, y, z].map Hex.padded) ++ ")")
  | opened path fd =>
    ("yan85_emu.syscall.bridge", "opened " ++ Fault.pathText path ++ " as fd " ++ toString fd)
  | notClosed fd path f =>
    ("yan85_emu.syscall.bridge",
      "failed to close fd " ++ toString fd ++ " (" ++ plainPath path ++ "): " ++ f.message)

/-- A line with the weight and the origin of a diagnostic before its text. -/
def line (d : Diagnostic) : String :=
  (if d.isWarning then "WARNING " else "DEBUG ") ++ d.parts.1 ++ ": " ++ d.parts.2

/-- The lines of diagnostics, of which only the warnings are shown unless everything is. -/
def lines (verbose : Bool) (ds : List Diagnostic) : List String :=
  (ds.filter fun d => verbose || d.isWarning).map line

end Diagnostic

/-- A failure that ends a session before the machine starts. -/
def startLine (message : String) : String := "Error: " ++ message

/-- A failure of a machine, with the registers that it leaves behind. -/
def Fault.lines {b : Bindings} (f : Fault) (rf : RegisterFile b) : List String :=
  [startLine (f.kind.name ++ ": " ++ f.message), "Registers: " ++ rf.text]

end Yan85
