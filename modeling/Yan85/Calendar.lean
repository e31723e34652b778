/-! # Dates and times of day

* `Date`, `Moment`: a day, and a time on a day with an optional distance from universal time.
* `Date.check`, `Moment.check`: the first field that is out of range.
* `Moment.same`, `Moment.before?`: times with a distance from universal time are equal if they are
  the same instant, and ordered by it.
* `isoText` is how a message shows them, `quoted` how they look inside a collection.
-/

namespace Yan85
set_option autoImplicit false

/-- A day of the calendar. -/
structure Date where
  year : Nat
  month : Nat
  day : Nat
  deriving DecidableEq, Repr

/-- A time on a day; `offset` is the distance from universal time in minutes. -/
structure Moment where
  date : Date
  hour : Nat
  minute : Nat
  second : Nat
  micro : Nat
  offset : Option Int
  deriving DecidableEq, Repr

/-- The field of a date or time that is out of range. -/
inductive CalendarFault
  | year (n : Nat)
  | month
  | day
  | hour
  | minute
  | second
  | offset (minutes : Int)
  deriving DecidableEq, Repr

namespace Calendar

/-- The digits of `n`, filled up with zeros to the width `w`. -/
def digits (w n : Nat) : String :=
  let ds := Nat.toDigits 10 n
  String.ofList (List.replicate (w - ds.length) '0' ++ ds)

def isLeap (year : Nat) : Bool := year % 4 == 0 && (year % 100 != 0 || year % 400 == 0)

/-- The number of days of a month. -/
def monthLength (year month : Nat) : Nat :=
  if month = 2 then (if isLeap year then 29 else 28)
  else if month = 4 ∨ month = 6 ∨ month = 9 ∨ month = 11 then 30
  else 31

/-- A length of time given in minutes, as days and seconds of which the seconds are not negative. -/
def durationText (minutes : Int) : String :=
  let days := minutes.fdiv 1440
  let seconds := (minutes - days * 1440) * 60
  let parts :=
    (if days = 0 then [] else ["days=" ++ toString days]) ++
    (if seconds = 0 then [] else ["seconds=" ++ toString seconds])
  "datetime.timedelta(" ++ (if parts = [] then "0" else ", ".intercalate parts) ++ ")"

end Calendar

open Calendar

def Date.check (d : Date) : Option CalendarFault :=
  if d.year < 1 ∨ 9999 < d.year then some (.year d.year)
  else if d.month < 1 ∨ 12 < d.month then some .month
  else if d.day < 1 ∨ monthLength d.year d.month < d.day then some .day
  else none

/-- The distance from universal time is looked at first, then the day, then the time of day. -/
def Moment.check (t : Moment) : Option CalendarFault :=
  let offsetFault : Option CalendarFault :=
    match t.offset with
    | some m => if -1440 < m ∧ m < 1440 then none else some (.offset m)
    | none => none
  offsetFault.or <| t.date.check.or <|
    if 23 < t.hour then some .hour
    else if 59 < t.minute then some .minute
    else if 59 < t.second then some .second
    else none

/-- The number of leap days before a year. -/
def Calendar.leapDays (year : Nat) : Nat := (year - 1) / 4 - (year - 1) / 100 + (year - 1) / 400

/-- The number of days since the first day of the year 1. -/
def Date.ordinal (d : Date) : Nat :=
  (List.range (d.month - 1)).foldl (fun n m => n + monthLength d.year (m + 1))
    ((d.year - 1) * 365 + leapDays d.year) + (d.day - 1)

/-- The microseconds since the first day of the year 1 began, by the time itself. -/
def Moment.micros (t : Moment) : Nat :=
  (((t.date.ordinal * 24 + t.hour) * 60 + t.minute) * 60 + t.second) * 1000000 + t.micro

/-- The microseconds up to a time whose distance from universal time is given in minutes. -/
def Moment.instant (t : Moment) (minutes : Int) : Int := (t.micros : Int) - minutes * 60000000

/-- Whether two times are equal: both without a distance from universal time and the same by
themselves, or both with one and the same instant. -/
def Moment.same (t u : Moment) : Bool :=
  match t.offset, u.offset with
  | none, none => t.micros == u.micros
  | some m, some n => t.instant m == u.instant n
  | _, _ => false

/-- Whether a time comes before another one. Only one of them with a distance from universal time
have no order. -/
def Moment.before? (t u : Moment) : Option Bool :=
  match t.offset, u.offset with
  | none, none => some (decide (t.micros < u.micros))
  | some m, some n => some (decide (t.instant m < u.instant n))
  | _, _ => none

def CalendarFault.message : CalendarFault → String
  | year n => "year " ++ toString n ++ " is out of range"
  | month => "month must be in 1..12"
  | day => "day is out of range for month"
  | hour => "hour must be in 0..23"
  | minute => "minute must be in 0..59"
  | second => "second must be in 0..59"
  | offset m => "offset must be a timedelta strictly between -timedelta(hours=24) and " ++
      "timedelta(hours=24), not " ++ durationText m ++ "."

def Date.isoText (d : Date) : String :=
  digits 4 d.year ++ "-" ++ digits 2 d.month ++ "-" ++ digits 2 d.day

def Date.quoted (d : Date) : String :=
  "datetime.date(" ++ ", ".intercalate ([d.year, d.month, d.day].map toString) ++ ")"

/-- A distance from universal time as hours and minutes. -/
def Moment.offsetText (minutes : Int) : String :=
  (if minutes < 0 then "-" else "+") ++ digits 2 (minutes.natAbs / 60) ++ ":" ++
    digits 2 (minutes.natAbs % 60)

def Moment.isoText (t : Moment) : String :=
  t.date.isoText ++ " " ++ digits 2 t.hour ++ ":" ++ digits 2 t.minute ++ ":" ++
    digits 2 t.second ++ (if t.micro = 0 then "" else "." ++ digits 6 t.micro) ++
    (match t.offset with
     | some m => Moment.offsetText m
     | none => "")

/-- The seconds are left out if they and the fraction are zero, the fraction if it is zero. -/
def Moment.quoted (t : Moment) : String :=
  let small := if t.micro ≠ 0 then [t.second, t.micro] else if t.second ≠ 0 then [t.second] else []
  let fields := [t.date.year, t.date.month, t.date.day, t.hour, t.minute] ++ small
  let zone :=
    match t.offset with
    | none => []
    | some m =>
      if m = 0 then ["tzinfo=datetime.timezone.utc"]
      else ["tzinfo=datetime.timezone(" ++ durationText m ++ ")"]
  "datetime.datetime(" ++ ", ".intercalate (fields.map toString ++ zone) ++ ")"

end Yan85
