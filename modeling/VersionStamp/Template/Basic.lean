import VersionStamp.Pattern.Escape
import VersionStamp.Pattern.Match

/-! Version templates. A template is literal text with fields in it, written `%M%` for the major,
`%m%` for the minor and `%b%` for the build number, `%d%` for the date and `%t%` for the time of
day; `%%` stands for a percent sign. A compiled template is the list of its segments together with
the pattern that version strings have to match. -/

namespace VersionStamp

inductive Counter
  | major
  | minor
  | build
  deriving DecidableEq, Repr

def Counter.name : Counter → String
  | .major => "major"
  | .minor => "minor"
  | .build => "build"

inductive Field
  | counter (c : Counter)
  | date
  | time
  deriving DecidableEq, Repr

namespace Field

abbrev major : Field := .counter .major

abbrev minor : Field := .counter .minor

abbrev build : Field := .counter .build

/-- Every field, in the order in which repetitions are looked for. -/
def all : List Field := [major, minor, build, date, time]

theorem mem_all (f : Field) : f ∈ all := by
  rcases f with (_ | _ | _) | _ | _ <;> decide

def letter : Field → Char
  | .counter .major => 'M'
  | .counter .minor => 'm'
  | .counter .build => 'b'
  | .date => 'd'
  | .time => 't'

def ofLetter? : Char → Option Field
  | 'M' => some major
  | 'm' => some minor
  | 'b' => some build
  | 'd' => some date
  | 't' => some time
  | _ => none

@[simp] theorem ofLetter?_letter (f : Field) : ofLetter? f.letter = some f := by
  rcases f with (_ | _ | _) | _ | _ <;> rfl

theorem letter_of_ofLetter? {c : Char} {f : Field} (h : ofLetter? c = some f) : f.letter = c := by
  unfold ofLetter? at h
  split at h <;> simp_all <;> subst h <;> rfl

def name : Field → String
  | .counter .major => "Major"
  | .counter .minor => "Minor"
  | .counter .build => "Build"
  | .date => "Date"
  | .time => "Time"

def token (f : Field) : List Char := ['%', f.letter, '%']

end Field

inductive Piece
  | literal (text : List Char)
  | percent
  | field (f : Field)
  deriving DecidableEq, Repr

namespace Piece

def source : Piece → List Char
  | .literal text => text
  | .percent => ['%', '%']
  | .field f => f.token

def field? : Piece → Option Field
  | .field f => some f
  | _ => none

def isField (p : Piece) : Bool := p.field?.isSome

/-- The pattern text for what the piece may stand for in a version string. -/
def patternText : Piece → List Char
  | .literal text => Pattern.escape text
  | .percent => ['%']
  | .field _ => Pattern.numberText

end Piece

structure Segment where
  piece : Piece
  /-- Where the segment begins in the template. -/
  position : Nat
  deriving DecidableEq, Repr

namespace Segment

def source (s : Segment) : List Char := s.piece.source

def field? (s : Segment) : Option Field := s.piece.field?

def isField (s : Segment) : Bool := s.piece.isField

end Segment

/-- The pattern text that version strings made of `segments` match. -/
def derivedRecognizer (segments : List Segment) : List Char :=
  segments.flatMap (·.piece.patternText)

structure Template where
  source : List Char
  segments : List Segment
  /-- The text of the pattern. -/
  recognizer : List Char
  pattern : Pattern
  deriving Repr

namespace Template

def fields (t : Template) : List Field := t.segments.filterMap (·.field?)

def uses (t : Template) (f : Field) : Bool := t.fields.contains f

/-- Whether a version string matches the recognizer as a whole. -/
def recognizes (t : Template) (text : List Char) : Bool := t.pattern.matchesAll text

/-- The template in force where none is given. -/
def defaultSource : List Char := "%M%.%m%-%d%.%t%".toList

end Template

end VersionStamp
