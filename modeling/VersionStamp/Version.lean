import VersionStamp.Calendar.Iso
import VersionStamp.Render

/-! Versions: a compiled template together with a state. Operations that fail leave the version as
it was; only an advance is kept even if it cannot be announced. -/

namespace VersionStamp

open Calendar

structure Version where
  template : Template
  state : State
  deriving Repr

/-- The values from which a version is made before they are checked. -/
structure Offer where
  source : List Char
  recognizer : Option (List Char)
  major : Value
  minor : Value
  build : Value
  stamp : Stamp
  mode : ZoneMode

namespace State

/-- Checks the counters in their order, then settles the time. -/
def create (zone : Zone) (clock : Clock) (major minor build : Value) (stamp : Stamp)
    (mode : ZoneMode) : Except VersionError State × Clock :=
  let counters := do
    return (← Counter.major.ofValue major, ← Counter.minor.ofValue minor,
      ← Counter.build.ofValue build)
  match counters with
  | .error e => (.error (.counter e), clock)
  | .ok (major, minor, build) =>
    match stamp.resolve zone mode clock with
    | (.error e, clock) => (.error (.calendar e), clock)
    | (.ok timestamp, clock) => (.ok ⟨major, minor, build, timestamp, mode⟩, clock)

def description (s : State) : Except Text.NumeralError (List Char) := do
  let major ← Text.writeNat s.major
  let minor ← Text.writeNat s.minor
  let build ← Text.writeNat s.build
  return "VersionState(major=".toList ++ major ++ ", minor=".toList ++ minor ++
    ", build=".toList ++ build ++ ", timestamp=".toList ++ s.timestamp.iso ++
    ", timezone_mode=".toList ++ s.mode.name.toList ++ [')']

end State

namespace Version

/-- Compiles the template first, then creates the state. -/
def create (zone : Zone) (clock : Clock) (offer : Offer) : Except VersionError Version × Clock :=
  match Template.compile offer.source offer.recognizer with
  | .error e => (.error (.template e), clock)
  | .ok template =>
    match State.create zone clock offer.major offer.minor offer.build offer.stamp offer.mode with
    | (.error e, clock) => (.error e, clock)
    | (.ok state, clock) => (.ok ⟨template, state⟩, clock)

def ofCandidate (zone : Zone) (clock : Clock) (source : List Char)
    (recognizer : Option (List Char)) (mode : ZoneMode) (candidate : List Char) :
    Except VersionError Version × Clock :=
  match Template.compile source recognizer with
  | .error e => (.error (.template e), clock)
  | .ok template =>
    match template.parse zone mode clock candidate with
    | (.error e, clock) => (.error (.parse e), clock)
    | (.ok state, clock) => (.ok ⟨template, state⟩, clock)

def render (v : Version) (zone : Zone) : Except VersionError (List Char) :=
  v.template.render zone v.state

def withTemplate (v : Version) (source : List Char) (recognizer : Option (List Char)) :
    Except VersionError Version :=
  match Template.compile source recognizer with
  | .error e => .error (.template e)
  | .ok template => .ok { v with template }

def setCounter (v : Version) (c : Counter) (value : Value) : Except VersionError Version :=
  match c.ofValue value with
  | .error e => .error (.counter e)
  | .ok n =>
    match v.state.setCounter c n with
    | .error e => .error (.numeral e)
    | .ok state => .ok { v with state }

def setStamp (v : Version) (zone : Zone) (clock : Clock) (stamp : Stamp) :
    Except VersionError Version × Clock :=
  match stamp.resolve zone v.state.mode clock with
  | (.error e, clock) => (.error (.calendar e), clock)
  | (.ok timestamp, clock) => (.ok { v with state := v.state.refresh timestamp }, clock)

def setMode (v : Version) (mode : ZoneMode) : Version :=
  { v with state := { v.state with mode } }

def increment (v : Version) (c : Counter) (clock : Clock) : Version × Clock :=
  ({ v with state := v.state.increment c clock.read.1 }, clock.read.2)

def refresh (v : Version) (clock : Clock) : Version × Clock :=
  ({ v with state := v.state.refresh clock.read.1 }, clock.read.2)

def usesCounter (v : Version) (c : Counter) : Bool := v.template.uses (.counter c)

/-- Advances the finest counter that the template shows. -/
def advance (v : Version) (clock : Clock) :
    (Version × Except VersionError (Option Counter)) × Clock :=
  let (state, outcome) := v.state.advanceVersion v.usesCounter clock.read.1
  (({ v with state }, outcome.mapError .numeral), clock.read.2)

def description (v : Version) : Except VersionError (List Char) := do
  let state ← v.state.description.mapError .numeral
  return "BuildVersion(template=".toList ++ Text.quoted v.template.source ++
    ", state=".toList ++ state ++ [')']

end Version

end VersionStamp
