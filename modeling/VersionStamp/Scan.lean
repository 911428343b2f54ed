import VersionStamp.Template.Basic
import VersionStamp.Text.Quoted

/-! Taking the fields out of a candidate. Every field of a template takes the next run of digits of
the candidate, whatever stands between the runs. -/

namespace VersionStamp

/-- The text of the fields of a candidate; counters are read as numbers. -/
structure Capture where
  major : Option Nat := none
  minor : Option Nat := none
  build : Option Nat := none
  date : List Char := []
  time : List Char := []
  deriving DecidableEq, Repr

namespace Capture

def setCounter (capture : Capture) (c : Counter) (n : Nat) : Capture :=
  match c with
  | .major => { capture with major := some n }
  | .minor => { capture with minor := some n }
  | .build => { capture with build := some n }

def add (capture : Capture) (f : Field) (digits : List Char) : Except Text.NumeralError Capture :=
  match f with
  | .counter c =>
    match Text.readDigits digits with
    | .ok n => .ok (capture.setCounter c n)
    | .error e => .error e
  | .date => .ok { capture with date := digits }
  | .time => .ok { capture with time := digits }

end Capture

inductive ScanFault
  | missing
  | unreadable (cause : Text.NumeralError)
  deriving DecidableEq, Repr

/-- The fault and the field of the template at which it arose. -/
structure ScanError where
  field : Field
  position : Nat
  fault : ScanFault
  deriving DecidableEq, Repr

def ScanError.message (e : ScanError) (template : List Char) : String :=
  let place := s!"{String.ofList e.field.token} for pattern '{String.ofList template}'"
  match e.fault with
  | .missing => "Unable to match " ++ place
  | .unreadable cause => s!"Unable to read {place}: {cause.message}"

def toNextDigit (text : List Char) : List Char := text.dropWhile fun c => !Text.isDigit c

def scanFrom : List Segment → List Char → Capture → Except ScanError Capture
  | [], _, capture => .ok capture
  | segment :: rest, text, capture =>
    match segment.field? with
    | none => scanFrom rest text capture
    | some f =>
      let here := toNextDigit text
      let digits := here.takeWhile Text.isDigit
      if digits.isEmpty then .error ⟨f, segment.position, .missing⟩
      else
        match capture.add f digits with
        | .error e => .error ⟨f, segment.position, .unreadable e⟩
        | .ok capture => scanFrom rest (here.dropWhile Text.isDigit) capture

def Template.scan (t : Template) (candidate : List Char) : Except ScanError Capture :=
  scanFrom t.segments candidate {}

end VersionStamp
