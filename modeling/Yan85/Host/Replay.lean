import Yan85.Host.Basic

/-! # A host that replays replies

* `Demand`, `Reply`: requests as data, and the answers to them.
* `Replay.host`: answers requests from a list of replies. The first request for which there is none
  is kept as the demand; it and all later ones are refused, so that the result of whatever asked is
  to be thrown away and asked for again with one more reply.
-/

namespace Yan85
set_option autoImplicit false

/-- A request as data. -/
inductive Demand
  | openFile (path : List UInt8)
  | read (fd count : Int)
  | write (fd : Int) (data : List UInt8)
  | close (fd : Nat)
  | sleep (seconds : Int)
  deriving DecidableEq, Repr

/-- The answer to a request: a number, bytes, or a refusal. -/
inductive Reply
  | number (n : Nat)
  | bytes (data : List UInt8)
  | refusal (f : HostFailure)
  deriving DecidableEq, Repr

/-- Replies that are still to be used, and the first request for which there was none. -/
structure Replay where
  replies : List Reply
  demand : Option Demand
  deriving DecidableEq, Repr

namespace Replay

/-- What stands for the result of a request without a reply. -/
def unanswered : HostFailure := ⟨0, "no reply"⟩

/-- The next reply to the request `d`. -/
def answer (d : Demand) (s : Replay) : Reply × Replay :=
  match s.demand, s.replies with
  | none, r :: rs => (r, { s with replies := rs })
  | none, [] => (.refusal unanswered, { s with demand := some d })
  | some _, _ => (.refusal unanswered, s)

/-- The result that a reply stands for, taken out of it by `get`. -/
def result {α : Type} (get : Reply → Option α) (r : Reply × Replay) :
    Except HostFailure α × Replay :=
  match r.1 with
  | .refusal f => (.error f, r.2)
  | x => ((get x).elim (.error unanswered) .ok, r.2)

def number? : Reply → Option Nat
  | .number n => some n
  | _ => none

def bytes? : Reply → Option (List UInt8)
  | .bytes data => some data
  | _ => none

/-- The most seconds that a clock of 64 bits can count in nanoseconds. -/
def longestSleep : Int := 9223372036

/-- Why there is no waiting for a number of seconds. What the clock cannot count is refused first. -/
def sleepRefusal (seconds : Int) : Option SleepFailure :=
  if longestSleep < seconds.natAbs then some ⟨true, "timestamp too large"⟩
  else if seconds < 0 then some ⟨false, "sleep length must be non-negative"⟩
  else none

theorem sleepRefusal_byteValue (x : UInt8) : sleepRefusal (byteValue x) = none := by
  have hx := x.toNat_lt
  have h0 : ¬ byteValue x < 0 := Int.not_lt.2 (Int.natCast_nonneg x.toNat)
  have hl : ¬ longestSleep < (byteValue x).natAbs := by
    simp only [longestSleep, byteValue, Int.ofNat_eq_natCast, Int.natAbs_natCast]
    omega
  rw [sleepRefusal, if_neg hl, if_neg h0]

/-- The host that answers from replies. -/
def host : Host Replay where
  openFile path s := result number? (answer (.openFile path) s)
  read fd count s := result bytes? (answer (.read fd count) s)
  write fd data s := result number? (answer (.write fd data) s)
  close fd s := result (fun _ => some ()) (answer (.close fd) s)
  sleepRefusal := sleepRefusal
  sleepRefusal_byteValue := sleepRefusal_byteValue
  sleep seconds s := (answer (.sleep seconds) s).2

end Replay

end Yan85
