import VersionStamp.Assemble
import VersionStamp.Scan
import VersionStamp.State

/-! Reading a version string back into a state. Counters that the template does not show are 0, and
without a date the version was captured now. -/

namespace VersionStamp

open Calendar

inductive ParseError
  | field (e : ScanError) (template : List Char)
  | date (template : List Char)
  | assembly (e : AssembleError)
  deriving DecidableEq, Repr

namespace ParseError

def message : ParseError → String
  | .field e template => e.message template
  | .date template => s!"Unable to match date for pattern '{String.ofList template}'"
  | .assembly e => e.message

/-- The place in the template of the field that failed; 0 for a date. -/
def position : ParseError → Nat
  | .field e _ => e.position
  | .date _ => 0
  | .assembly _ => 0

end ParseError

def Capture.timestamp (capture : Capture) (zone : Zone) (mode : ZoneMode) (now : Timestamp) :
    Except AssembleError Timestamp :=
  if capture.date.isEmpty then .ok now else assemble zone mode capture.date capture.time

namespace Template

def parseAt (t : Template) (zone : Zone) (mode : ZoneMode) (now : Timestamp)
    (candidate : List Char) : Except ParseError State :=
  match t.scan candidate with
  | .error e => .error (.field e t.source)
  | .ok capture =>
    match capture.timestamp zone mode now with
    | .error _ => .error (.date t.source)
    | .ok timestamp =>
      .ok ⟨capture.major.getD 0, capture.minor.getD 0, capture.build.getD 0, timestamp, mode⟩

/-- Reads a candidate. The clock is read once, whether its time is needed or not. -/
def parse (t : Template) (zone : Zone) (mode : ZoneMode) (clock : Clock) (candidate : List Char) :
    Except ParseError State × Clock :=
  (t.parseAt zone mode clock.read.1 candidate, clock.read.2)

end Template

end VersionStamp
