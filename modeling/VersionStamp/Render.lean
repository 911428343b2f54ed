import VersionStamp.Parse
import VersionStamp.Template.Compile

/-! Version strings. Each segment of the template is written out in turn, and the result has to
match the recognizer of the template. -/

namespace VersionStamp

open Calendar

inductive VersionError
  | template (e : TemplateError)
  | parse (e : ParseError)
  | counter (e : CounterError)
  | calendar (e : CalendarError)
  | numeral (e : Text.NumeralError)
  /-- A version string does not match the recognizer of its own template. -/
  | inconsistent (version source recognizer : List Char)

def VersionError.message : VersionError → String
  | .template e => e.message
  | .parse e => e.message
  | .counter e => e.message
  | .calendar e => e.message
  | .numeral e => e.message
  | .inconsistent version source recognizer =>
    s!"Version string generated '{String.ofList version}' " ++
      s!"from pattern '{String.ofList source}' " ++
      s!"does not match candidate pattern '{String.ofList recognizer}'. " ++
      "Output and candidate patterns must be consistent"

def Piece.render (zone : Zone) (s : State) : Piece → Except VersionError (List Char)
  | .literal text => .ok text
  | .percent => .ok ['%']
  | .field (.counter c) => (Text.writeNat (s.counter c)).mapError .numeral
  | .field .date => ((s.shownTimestamp zone).map (·.wall.dateDigits)).mapError .calendar
  | .field .time => ((s.shownTimestamp zone).map (·.wall.timeDigits)).mapError .calendar

/-- What segments show, one after the other. The first that fails decides. -/
def renderAll (zone : Zone) (s : State) : List Segment → Except VersionError (List Char)
  | [] => .ok []
  | segment :: rest => do
    let text ← segment.piece.render zone s
    return text ++ (← renderAll zone s rest)

namespace Template

def render (t : Template) (zone : Zone) (s : State) : Except VersionError (List Char) := do
  let version ← renderAll zone s t.segments
  if t.recognizes version then return version
  else throw (.inconsistent version t.source t.recognizer)

end Template

end VersionStamp
