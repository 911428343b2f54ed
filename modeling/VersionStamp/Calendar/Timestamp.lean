import VersionStamp.Calendar.Date
import VersionStamp.Text.Numeral

/-! Wall-clock times and timestamps. A wall-clock time is a count of seconds from the start of
year 1 to the end of year 9999, with microseconds; a timestamp is a wall-clock time with the
offset from UTC at which the clock stood. Timestamps are ordered by the instant they name. -/

namespace VersionStamp.Calendar

def secondsPerDay : Int := 86400

def endOfTime : Int := 3652059 * secondsPerDay

inductive CalendarError
  | yearOutOfRange (year : Int)
  | dateOutOfRange
  | tooManyDays (days : Int)
  | uncountableDays
  deriving DecidableEq, Repr

def CalendarError.message : CalendarError → String
  | .yearOutOfRange year => s!"year {year} is out of range"
  | .dateOutOfRange => "date value out of range"
  | .tooManyDays days => s!"days={days}; must have magnitude <= 999999999"
  | .uncountableDays => "Python int too large to convert to C int"

/-- What a clock on the wall shows, with its date, in the years 1 to 9999. -/
structure WallTime where
  seconds : Int
  micros : Nat
  seconds_inRange : 0 ≤ seconds ∧ seconds < endOfTime
  micros_lt : micros < 1000000
  deriving DecidableEq, Repr

namespace WallTime

def day (w : WallTime) : Int := w.seconds / secondsPerDay

def date (w : WallTime) : Date := Date.ofDayNumber w.day

def secondOfDay (w : WallTime) : Nat := (w.seconds % secondsPerDay).toNat

def hour (w : WallTime) : Nat := w.secondOfDay / 3600

def minute (w : WallTime) : Nat := w.secondOfDay / 60 % 60

def second (w : WallTime) : Nat := w.secondOfDay % 60

def microseconds (w : WallTime) : Int := w.seconds * 1000000 + w.micros

/-- The clock so many microseconds after the start of year 1, if that is before the year 10000. -/
def ofMicroseconds (total : Int) : Except CalendarError WallTime :=
  if h : 0 ≤ total / 1000000 ∧ total / 1000000 < endOfTime then
    .ok ⟨total / 1000000, (total % 1000000).toNat, h, by omega⟩
  else .error .dateOutOfRange

def atSeconds (w : WallTime) (seconds : Int) : Except CalendarError WallTime :=
  if h : 0 ≤ seconds ∧ seconds < endOfTime then
    .ok ⟨seconds, w.micros, h, w.micros_lt⟩
  else .error .dateOutOfRange

def ofSeconds (seconds : Int) : Except CalendarError WallTime :=
  if h : 0 ≤ seconds ∧ seconds < endOfTime then .ok ⟨seconds, 0, h, by decide⟩
  else .error .dateOutOfRange

def start : WallTime := ⟨0, 0, by decide, by decide⟩

def truncate (w : WallTime) : WallTime := { w with micros := 0, micros_lt := by decide }

def dateDigits (w : WallTime) : List Char :=
  Text.padded 4 w.date.year.toNat ++ Text.padded 2 w.date.month ++ Text.padded 2 w.date.day

def timeDigits (w : WallTime) : List Char :=
  Text.padded 2 w.hour ++ Text.padded 2 w.minute ++ Text.padded 2 w.second

end WallTime

/-- A wall-clock time together with the clock that shows it. -/
structure Timestamp where
  wall : WallTime
  /-- Microseconds by which the clock is ahead of UTC. -/
  offset : Int
  deriving DecidableEq, Repr

namespace Timestamp

/-- Microseconds from the start of year 1 in UTC to the instant: timestamps are ordered by it. -/
def microInstant (t : Timestamp) : Int := t.wall.microseconds - t.offset

/-- Whole seconds from the start of year 1 in UTC to the instant. -/
def instant (t : Timestamp) : Int := t.microInstant / 1000000

/-- The same instant on a clock that is `offset` microseconds ahead. -/
def atOffset (t : Timestamp) (offset : Int) : Except CalendarError Timestamp := do
  return ⟨← WallTime.ofMicroseconds (t.microInstant + offset), offset⟩

def toUtc (t : Timestamp) : Except CalendarError Timestamp := t.atOffset 0

end Timestamp

end VersionStamp.Calendar
