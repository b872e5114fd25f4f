/-!
# `FeatureFlags.Config.Moment` — dates and times

A moment is a calendar date, or a date with a time of day that may be fixed to the universal clock
by an offset.  `Moment.ofFields` checks the fields in a fixed order, so that the first one out of
range decides the error.

## Contents

1. Offsets
2. Moments and their literals
3. Checked construction
4. Equality
-/

namespace FeatureFlags

/-! ## Offsets -/

/-- The literal of a span of time given in seconds: whole days, then the seconds left over. -/
def spanLiteral (seconds : Int) : String :=
  let days := seconds.fdiv 86400
  let rest := seconds.fmod 86400
  let parts :=
    (if days = 0 then [] else ["days=" ++ toString days]) ++
      (if rest = 0 then [] else ["seconds=" ++ toString rest])
  let inside := if parts.isEmpty then "0" else String.intercalate ", " parts
  "datetime.timedelta(" ++ inside ++ ")"

/-- The literal of an offset from the universal clock, in seconds. -/
def offsetLiteral (seconds : Int) : String :=
  if seconds = 0 then "datetime.timezone.utc"
  else "datetime.timezone(" ++ spanLiteral seconds ++ ")"

/-! ## Moments and their literals -/

/-- A calendar date. -/
structure CalendarDate where
  year : Nat
  month : Nat
  day : Nat
  deriving DecidableEq

/-- A time of day, with the offset in seconds from the universal clock if it is known. -/
structure TimeOfDay where
  hour : Nat
  minute : Nat
  second : Nat
  microsecond : Nat
  offset : Option Int
  deriving DecidableEq

/-- A date, with or without a time of day. -/
structure Moment where
  date : CalendarDate
  time : Option TimeOfDay
  deriving DecidableEq

namespace Moment

/-- The literal of a moment.  Zero seconds and microseconds are left out at the end. -/
def literal (m : Moment) : String :=
  let date := [m.date.year, m.date.month, m.date.day]
  match m.time with
  | none => "datetime.date(" ++ String.intercalate ", " (date.map toString) ++ ")"
  | some t =>
    let clock :=
      if t.microsecond ≠ 0 then [t.hour, t.minute, t.second, t.microsecond]
      else if t.second ≠ 0 then [t.hour, t.minute, t.second]
      else [t.hour, t.minute]
    let zone :=
      match t.offset with
      | some seconds => ["tzinfo=" ++ offsetLiteral seconds]
      | none => []
    "datetime.datetime(" ++
      String.intercalate ", " ((date ++ clock).map toString ++ zone) ++ ")"

/-! ## Checked construction -/

/-- Whether a year has a leap day. -/
def isLeap (year : Nat) : Bool := year % 4 == 0 && (year % 100 != 0 || year % 400 == 0)

/-- How many days a month has. -/
def daysInMonth (year month : Nat) : Nat :=
  if month = 2 then if isLeap year then 29 else 28
  else if month = 4 ∨ month = 6 ∨ month = 9 ∨ month = 11 then 30
  else 31

/-- What is wrong with the fields of a moment, in the order in which they are checked. -/
def fault? (m : Moment) : Option String :=
  let d := m.date
  let dateFault : Option String :=
    if d.year = 0 then some "year 0 is out of range"
    else if d.month < 1 ∨ d.month > 12 then some "month must be in 1..12"
    else if d.day < 1 ∨ d.day > daysInMonth d.year d.month then some "day is out of range for month"
    else none
  let timeFault (t : TimeOfDay) : Option String :=
    if t.hour > 23 then some "hour must be in 0..23"
    else if t.minute > 59 then some "minute must be in 0..59"
    else if t.second > 59 then some "second must be in 0..59"
    else none
  let offsetFault (t : TimeOfDay) : Option String :=
    match t.offset with
    | some seconds =>
      if seconds.natAbs ≥ 86400 then
        some ("offset must be a timedelta strictly between -timedelta(hours=24) and " ++
          "timedelta(hours=24), not " ++ spanLiteral seconds ++ ".")
      else none
    | none => none
  (m.time.bind offsetFault).or (dateFault.or (m.time.bind timeFault))

/-- A moment with the given fields, or what is wrong with them. -/
def ofFields (date : CalendarDate) (time : Option TimeOfDay) : Except String Moment :=
  let m : Moment := ⟨date, time⟩
  match m.fault? with
  | some fault => .error fault
  | none => .ok m

/-! ## Equality -/

/-- How many days lie before the first day of a year. -/
def daysBeforeYear (year : Nat) : Nat :=
  let y := year - 1
  y * 365 + y / 4 - y / 100 + y / 400

/-- The number of a day. -/
def dayNumber (d : CalendarDate) : Nat :=
  daysBeforeYear d.year +
    (List.range (d.month - 1)).foldl (fun days i => days + daysInMonth d.year (i + 1)) 0 + d.day

/-- The place of a moment on the universal clock, in microseconds, if its offset is known. -/
def instant? (m : Moment) : Option Int :=
  m.time.bind fun t => t.offset.map fun seconds =>
    (((dayNumber m.date * 24 + t.hour) * 60 + t.minute : Int) * 60 + t.second - seconds) * 1000000 +
      t.microsecond

/-- Whether two moments are one: on the universal clock where both have an offset, and otherwise
field by field. -/
def same (a b : Moment) : Bool :=
  match a.instant?, b.instant? with
  | some x, some y => x == y
  | _, _ => a == b

end Moment

end FeatureFlags
