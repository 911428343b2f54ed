import VersionStamp.Version

/-! Sessions: versions held in named slots, with one clock for all of them. A step works on the
version of one slot and leaves the other slots alone; a copy shares nothing with its model but the
clock. -/

namespace VersionStamp

open Calendar

inductive Action
  | setCounter (c : Counter) (value : Value)
  | setStamp (stamp : Stamp)
  | setMode (mode : ZoneMode)
  | advance
  | increment (c : Counter)
  | refresh
  | changeTemplate (source : List Char) (recognizer : Option (List Char))
  | render
  | describe
  | record
  | recognize (text : List Char)
  | zoned
  | inspect

inductive Step
  | create (slot : String) (offer : Offer)
  | parse (slot : String) (source : List Char) (recognizer : Option (List Char)) (mode : ZoneMode)
      (candidate : List Char)
  | copy (model : String) (slot : String)
  | act (slot : String) (action : Action)
  | compare (slot : String) (other : String)

structure Record where
  version : List Char
  template : List Char
  recognizer : List Char
  major : Nat
  minor : Nat
  build : Nat
  timestamp : List Char
  mode : ZoneMode

inductive Answer
  | done
  | text (text : List Char)
  | advanced (c : Option Counter)
  | record (r : Record)
  | flag (b : Bool)
  | template (t : Template)
  | comparison (same : Bool) (order : Ordering)

def Version.toRecord (v : Version) (zone : Zone) : Except VersionError Record := do
  let version ← v.render zone
  return {
    version
    template := v.template.source
    recognizer := v.template.recognizer
    major := v.state.major
    minor := v.state.minor
    build := v.state.build
    timestamp := v.state.timestamp.iso
    mode := v.state.mode }

/-- What is known after a step: the version of the slot, the answer, and the clock. -/
structure Result where
  version : Version
  answer : Except VersionError Answer
  clock : Clock

namespace Version

/-- A result that leaves the version and the clock as they were. -/
def answering (v : Version) (clock : Clock) (answer : Except VersionError Answer) : Result :=
  ⟨v, answer, clock⟩

/-- A result that stores a changed version, or keeps the old one if the change failed. -/
def changing (v : Version) (clock : Clock) (changed : Except VersionError Version) : Result :=
  match changed with
  | .ok after => ⟨after, .ok .done, clock⟩
  | .error e => ⟨v, .error e, clock⟩

def act (v : Version) (zone : Zone) (clock : Clock) : Action → Result
  | .setCounter c value => v.changing clock (v.setCounter c value)
  | .setStamp stamp =>
    let (changed, clock) := v.setStamp zone clock stamp
    v.changing clock changed
  | .setMode mode => ⟨v.setMode mode, .ok .done, clock⟩
  | .advance =>
    let ((after, outcome), clock) := v.advance clock
    ⟨after, outcome.map .advanced, clock⟩
  | .increment c =>
    let (after, clock) := v.increment c clock
    ⟨after, .ok .done, clock⟩
  | .refresh =>
    let (after, clock) := v.refresh clock
    ⟨after, .ok .done, clock⟩
  | .changeTemplate source recognizer =>
    v.changing clock (v.withTemplate source recognizer)
  | .render => v.answering clock ((v.render zone).map .text)
  | .describe => v.answering clock (v.description.map .text)
  | .record => v.answering clock ((v.toRecord zone).map .record)
  | .recognize text => v.answering clock (.ok (.flag (v.template.recognizes text)))
  | .zoned =>
    v.answering clock (((v.state.shownTimestamp zone).map (.text ·.iso)).mapError .calendar)
  | .inspect => v.answering clock (.ok (.template v.template))

end Version

def slot? (name : String) : List (String × Version) → Option Version
  | [] => none
  | (n, v) :: rest => if n = name then some v else slot? name rest

def storeSlot (name : String) (v : Version) : List (String × Version) → List (String × Version)
  | [] => [(name, v)]
  | (n, w) :: rest => if n = name then (n, v) :: rest else (n, w) :: storeSlot name v rest

structure Session where
  slots : List (String × Version)
  clock : Clock

inductive Reply
  | noSlot
  | answered (answer : Except VersionError Answer) (state : Option State)

namespace Session

def get? (s : Session) (name : String) : Option Version := slot? name s.slots

def put (s : Session) (name : String) (v : Version) (clock : Clock) : Session :=
  ⟨storeSlot name v s.slots, clock⟩

def store (s : Session) (name : String) (made : Except VersionError Version × Clock) :
    Session × Reply :=
  match made with
  | (.ok v, clock) => (s.put name v clock, .answered (.ok .done) (some v.state))
  | (.error e, clock) => ({ s with clock }, .answered (.error e) none)

def step (s : Session) (zone : Zone) : Step → Session × Reply
  | .create slot offer => s.store slot (Version.create zone s.clock offer)
  | .parse slot source recognizer mode candidate =>
    s.store slot (Version.ofCandidate zone s.clock source recognizer mode candidate)
  | .copy model slot =>
    match s.get? model with
    | none => (s, .noSlot)
    | some v => (s.put slot v s.clock, .answered (.ok .done) (some v.state))
  | .act slot action =>
    match s.get? slot with
    | none => (s, .noSlot)
    | some v =>
      let result := v.act zone s.clock action
      (s.put slot result.version result.clock,
        .answered result.answer (some result.version.state))
  | .compare slot other =>
    match s.get? slot, s.get? other with
    | some v, some w =>
      (s, .answered (.ok (.comparison (v.state.same w.state) (v.state.order w.state)))
        (some v.state))
    | _, _ => (s, .noSlot)

end Session

end VersionStamp
