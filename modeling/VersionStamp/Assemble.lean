import VersionStamp.Calendar.Zone
import VersionStamp.Text.Quoted

/-! Timestamps from the digits of a date and a time of day. Year and month have four and two digits
and the day has the rest; hour and minute have two each and the second has the rest. A field that
is too large for its place carries over into the larger ones. -/

namespace VersionStamp

open Calendar

inductive AssembleFault
  | shortDate
  | shortTime
  | notNumber (cause : Text.NumeralError)
  | calendar (cause : CalendarError)
  deriving DecidableEq, Repr

structure AssembleError where
  date : List Char
  time : List Char
  fault : AssembleFault
  deriving DecidableEq, Repr

def AssembleError.message (e : AssembleError) : String :=
  let cause :=
    match e.fault with
    | .shortDate => s!"date '{String.ofList e.date}' is too short"
    | .shortTime => s!"time '{String.ofList e.time}' is too short"
    | .notNumber cause => cause.message
    | .calendar cause => cause.message
  s!"Unable to match date '{String.ofList e.date}{String.ofList e.time}': {cause}"

structure DateFields where
  year : Int
  month : Int
  day : Int
  hour : Int := 0
  minute : Int := 0
  second : Int := 0
  deriving DecidableEq, Repr

namespace DateFields

/-- The year in which the month falls: months past December belong to later years. -/
def carriedYear (f : DateFields) : Int := f.year + (f.month - 1) / 12

def carriedMonth (f : DateFields) : Nat := ((f.month - 1) % 12).toNat + 1

def duration (f : DateFields) : Int :=
  (f.day - 1) * secondsPerDay + f.hour * 3600 + f.minute * 60 + f.second

def seconds (f : DateFields) : Int :=
  Date.dayNumber ⟨f.carriedYear, f.carriedMonth, 1⟩ * secondsPerDay + f.duration

/-- A duration is counted in whole days first, and only so many days can be counted. -/
def checkDuration (f : DateFields) : Except CalendarError Unit :=
  let days := f.duration / secondsPerDay
  if days < -2147483648 ∨ 2147483647 < days then .error .uncountableDays
  else if days < -999999999 ∨ 999999999 < days then .error (.tooManyDays days)
  else .ok ()

/-- The wall-clock time, if it is in the years 1 to 9999. -/
def toWall (f : DateFields) : Except CalendarError WallTime := do
  if f.carriedYear < 1 ∨ 9999 < f.carriedYear then
    throw (.yearOutOfRange f.carriedYear)
  f.checkDuration
  WallTime.ofSeconds f.seconds

end DateFields

def readField (digits : List Char) : Except AssembleFault Int :=
  (Text.readInt digits).mapError .notNumber

/-- Reads the numbers of a date and a time of day. An empty time means midnight. -/
def readDateFields (date time : List Char) : Except AssembleFault DateFields := do
  if date.length < 7 then
    throw .shortDate
  let year ← readField (date.take 4)
  let month ← readField ((date.drop 4).take 2)
  let day ← readField (date.drop 6)
  if time.isEmpty then
    return { year, month, day }
  if time.length < 5 then
    throw .shortTime
  let hour ← readField (time.take 2)
  let minute ← readField ((time.drop 2).take 2)
  let second ← readField (time.drop 4)
  return { year, month, day, hour, minute, second }

def assemble (zone : Zone) (mode : ZoneMode) (date time : List Char) :
    Except AssembleError Timestamp :=
  let result : Except AssembleFault Timestamp := do
    let fields ← readDateFields date time
    let wall ← fields.toWall.mapError .calendar
    (mode.interpret zone wall).mapError .calendar
  result.mapError fun fault => ⟨date, time, fault⟩

end VersionStamp
