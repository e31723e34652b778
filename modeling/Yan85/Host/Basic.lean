import Yan85.Byte
import Yan85.Fault

/-! # Hosts

* `Host σ`: what a machine can ask of its surroundings, whose state is of type `σ`.
* `Host.Honest`: a read gives no more bytes than were asked for, a write takes no more than were
  offered.
-/

namespace Yan85
set_option autoImplicit false

/-- The requests of a machine to its surroundings. Descriptors and counts come from programs and
may be any integers. -/
structure Host (σ : Type) where
  /-- Opens the file at a path for reading. -/
  openFile : List UInt8 → σ → Except HostFailure Nat × σ
  /-- Reads at most the given number of bytes. -/
  read : Int → Int → σ → Except HostFailure (List UInt8) × σ
  /-- Writes bytes and says how many were taken. -/
  write : Int → List UInt8 → σ → Except HostFailure Nat × σ
  /-- Closes a descriptor. -/
  close : Nat → σ → Except HostFailure Unit × σ
  /-- Why the host does not wait for a number of seconds, if it does not. -/
  sleepRefusal : Int → Option SleepFailure
  /-- It waits for as many seconds as a byte can say. -/
  sleepRefusal_byteValue : ∀ x : UInt8, sleepRefusal (byteValue x) = none
  /-- Waits for a number of seconds. -/
  sleep : Int → σ → σ

/-- A read gives no more bytes than were asked for, a write takes no more than were offered. -/
structure Host.Honest {σ : Type} (H : Host σ) : Prop where
  read_length : ∀ fd count s data s', H.read fd count s = (.ok data, s') →
    data.length ≤ count.toNat
  write_count : ∀ fd data s n s', H.write fd data s = (.ok n, s') → n ≤ data.length

end Yan85
