import VersionStamp.Calendar.Timestamp

/-! Local time. A zone has a standard offset and may have a daylight offset, in force every year
between two dates. Going from an instant to local time
is a function; going back has to settle hours that occur twice and hours that are skipped. -/

namespace VersionStamp.Calendar

inductive YearlyDay
  /-- Such as the second Sunday of March. Week 5 is the last such day of the month. -/
  | ofMonth (month week weekday : Nat)
  /-- From day 1 on, never counting the 29th of February. -/
  | numbered (day : Nat)
  /-- From day 0 on, counting the 29th of February where there is one. -/
  | elapsed (day : Nat)
  deriving DecidableEq, Repr

def YearlyDay.dayIn (d : YearlyDay) (year : Int) : Int :=
  let leap := isLeapYear year
  match d with
  | .ofMonth month week weekday =>
    let first := Date.dayNumber ⟨year, month, 1⟩
    let earliest := (weekday + 7 - dayOfWeek first) % 7
    let inMonth := earliest + 7 * (week - 1)
    let length := daysInMonth leap month
    let last := earliest + 7 * ((length - 1 - earliest) / 7)
    first + (if inMonth < length then inMonth else last : Nat)
  | .numbered day => daysBeforeYear year + (if leap && 60 ≤ day then day else day - 1 : Nat)
  | .elapsed day => daysBeforeYear year + day

/-- A day of every year, with the wall-clock time of the change in seconds after midnight. -/
structure YearlyDate where
  day : YearlyDay
  time : Int
  deriving DecidableEq, Repr

def YearlyDate.secondsIn (d : YearlyDate) (year : Int) : Int :=
  d.day.dayIn year * secondsPerDay + d.time

structure Daylight where
  offset : Int
  start : YearlyDate
  finish : YearlyDate
  deriving DecidableEq, Repr

/-- The offsets from UTC that hold at a place. -/
structure Zone where
  /-- Seconds by which standard time is ahead of UTC. -/
  standard : Int
  daylight : Option Daylight := none
  deriving DecidableEq, Repr

namespace Zone

def utc : Zone := ⟨0, none⟩

/-- Daylight time is in force at an instant. The beginning is told by the standard clock and the
end by the daylight clock; where the year begins in daylight time, it is in force outside the
span between the two. -/
def isDaylight (z : Zone) (d : Daylight) (instant : Int) : Bool :=
  let year := yearOfDay (instant / secondsPerDay)
  let start := d.start.secondsIn year - z.standard
  let finish := d.finish.secondsIn year - d.offset
  if start ≤ finish then start ≤ instant && instant < finish
  else instant < finish || start ≤ instant

def offsetAt (z : Zone) (instant : Int) : Int :=
  match z.daylight with
  | none => z.standard
  | some d => if z.isDaylight d instant then d.offset else z.standard

def localize (z : Zone) (t : Timestamp) : Except CalendarError Timestamp := do
  let utc ← t.toUtc
  utc.atOffset (z.offsetAt utc.instant * 1000000)

/-- The wall-clock seconds at an instant, which have to lie in the years 1 to 9999. -/
def wallSeconds (z : Zone) (instant : Int) : Except CalendarError Int :=
  let seconds := instant + z.offsetAt instant
  if 0 ≤ seconds ∧ seconds < endOfTime then .ok seconds
  else .error (.yearOutOfRange (yearOfDay (seconds / secondsPerDay)))

/-- The instant at which the wall clock shows `wall` seconds. The offset is first guessed as the
one in force were the clock at UTC; of two instants a day or less apart the earlier is taken, and
for a skipped time the later of the two readings. -/
def instantOf (z : Zone) (wall : Int) : Except CalendarError Int := do
  let guess := (← z.wallSeconds wall) - wall
  let first := wall - guess
  let shown ← z.wallSeconds first
  let dayBefore := first - secondsPerDay
  let other ←
    if shown = wall then (z.wallSeconds dayBefore).map (· - dayBefore)
    else pure (shown - first)
  if shown = wall ∧ other = guess then
    return first
  let second := wall - other
  if (← z.wallSeconds second) = wall then
    return second
  else if shown = wall then
    return first
  else
    return max first second

/-- The timestamp of a wall-clock time. The offset is the one in force at the instant found, and
the result shows the local time of that instant, which is another than `w` where `w` was skipped. -/
def ofWall (z : Zone) (w : WallTime) : Except CalendarError Timestamp := do
  let offset := z.offsetAt (← z.instantOf w.seconds)
  let utc ← w.atSeconds (w.seconds - offset)
  z.localize ⟨utc, 0⟩

end Zone

inductive ZoneMode
  | utc
  | localTime
  deriving DecidableEq, Repr

namespace ZoneMode

def name : ZoneMode → String
  | .utc => "utc"
  | .localTime => "local"

def ofFlag (useLocal : Bool) : ZoneMode := if useLocal then .localTime else .utc

def express (mode : ZoneMode) (z : Zone) (t : Timestamp) : Except CalendarError Timestamp :=
  match mode with
  | .utc => t.toUtc
  | .localTime => z.localize t

/-- The timestamp of a wall-clock time of the mode. -/
def interpret (mode : ZoneMode) (z : Zone) (w : WallTime) : Except CalendarError Timestamp :=
  match mode with
  | .utc => .ok ⟨w, 0⟩
  | .localTime => z.ofWall w

end ZoneMode

end VersionStamp.Calendar
