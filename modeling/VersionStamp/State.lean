import VersionStamp.Calendar.Zone
import VersionStamp.Template.Basic
import VersionStamp.Value

/-! The state of a version: three counters, the time at which it was captured, and the clock on
which that time is shown. Advancing a counter captures the time anew; advancing or changing the
major number sets the minor number back to 0. -/

namespace VersionStamp

open Calendar

structure Clock where
  /-- What the reading of each number shows, from 0 on. -/
  reading : Nat → Timestamp
  /-- How many readings were taken. -/
  calls : Nat := 0

/-- The clock that starts at a time and moves on by so many seconds with every reading. It stands
still where it would leave the calendar. -/
def Clock.ofSteps (start : Timestamp) (step : Int) : Clock :=
  { reading := fun n =>
      match start.wall.atSeconds (start.wall.seconds + n * step) with
      | .ok wall => ⟨wall, start.offset⟩
      | .error _ => start }

def Clock.read (clock : Clock) : Timestamp × Clock :=
  (clock.reading clock.calls, { clock with calls := clock.calls + 1 })

inductive CounterError
  | notInteger (c : Counter) (value : Value)
  | negative (c : Counter) (value : Int)

def CounterError.message : CounterError → String
  | .notInteger c value =>
    match value.shown with
    | .ok text => s!"{c.name} must be an integer, got {String.ofList text}"
    | .error e => e.message
  | .negative c value =>
    match Text.writeInt value with
    | .ok text => s!"{c.name} must be non-negative, got {String.ofList text}"
    | .error e => e.message

/-- Takes a value as a counter: a whole number that is not negative. -/
def Counter.ofValue (c : Counter) : Value → Except CounterError Nat
  | .int i => if i < 0 then .error (.negative c i) else .ok i.toNat
  | value => .error (.notInteger c value)

/-- The time that is offered for a version. -/
inductive Stamp
  /-- The next reading of the clock. -/
  | now
  | aware (t : Timestamp)
  /-- Wall-clock time in the mode of the version. -/
  | naive (w : WallTime)
  deriving DecidableEq, Repr

/-- The timestamp that is meant, and the clock after it was settled. -/
def Stamp.resolve (stamp : Stamp) (zone : Zone) (mode : ZoneMode) (clock : Clock) :
    Except CalendarError Timestamp × Clock :=
  match stamp with
  | .now => (.ok clock.read.1, clock.read.2)
  | .aware t => (.ok t, clock)
  | .naive w => (mode.interpret zone w, clock)

/-- The counters of a version, the time at which it was captured, and how that time is shown. -/
structure State where
  major : Nat
  minor : Nat
  build : Nat
  timestamp : Timestamp
  mode : ZoneMode
  deriving DecidableEq, Repr

namespace State

def counter (s : State) : Counter → Nat
  | .major => s.major
  | .minor => s.minor
  | .build => s.build

def fresh (timestamp : Timestamp) (mode : ZoneMode) : State := ⟨0, 0, 0, timestamp, mode⟩

def shownTimestamp (s : State) (zone : Zone) : Except CalendarError Timestamp :=
  s.mode.express zone s.timestamp

def isWritable (s : State) : Bool :=
  Text.isWritable s.major && Text.isWritable s.minor && Text.isWritable s.build

/-- A new major number starts with the minor number 0; the same one changes nothing. -/
def setMajor (s : State) (major : Nat) : State :=
  if major = s.major then s else { s with major := major, minor := 0 }

/-- Sets a counter. A change of the major number is announced with both numbers, so it is refused
if one of them cannot be written. -/
def setCounter (s : State) (c : Counter) (n : Nat) : Except Text.NumeralError State :=
  match c with
  | .major =>
    if n = s.major then .ok s
    else if Text.isWritable s.major && Text.isWritable n then .ok (s.setMajor n)
    else .error .tooLarge
  | .minor => .ok { s with minor := n }
  | .build => .ok { s with build := n }

def refresh (s : State) (now : Timestamp) : State := { s with timestamp := now }

def increment (s : State) (c : Counter) (now : Timestamp) : State :=
  match c with
  | .major => { s with major := s.major + 1, minor := 0, timestamp := now }
  | .minor => { s with minor := s.minor + 1, timestamp := now }
  | .build => { s with build := s.build + 1, timestamp := now }

def advance (s : State) (c : Option Counter) (now : Timestamp) : State :=
  match c with
  | some c => s.increment c now
  | none => s.refresh now

/-- Versions are ordered by their counters, then by the instant of their timestamps. -/
def order (a b : State) : Ordering :=
  (compare a.major b.major).then <|
    (compare a.minor b.minor).then <|
      (compare a.build b.build).then <|
        compare a.timestamp.microInstant b.timestamp.microInstant

def same (a b : State) : Bool := a.order b == .eq && a.mode == b.mode

end State

def finestCounter (uses : Counter → Bool) : Option Counter :=
  [Counter.build, .minor, .major].find? uses

/-- What an advance is reported to have advanced. -/
def advanceName : Option Counter → String
  | some c => c.name
  | none => "timestamp"

/-- Advances the finest counter in use. The whole state is announced afterwards, which fails if a
counter cannot be written; the state is the advanced one all the same. -/
def State.advanceVersion (s : State) (uses : Counter → Bool) (now : Timestamp) :
    State × Except Text.NumeralError (Option Counter) :=
  let c := finestCounter uses
  let after := s.advance c now
  (after, if after.isWritable then .ok c else .error .tooLarge)

end VersionStamp

