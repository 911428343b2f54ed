import VersionStamp.Pattern.Reader
import VersionStamp.Template.Basic

/-! Compiling templates. White space is looked for first, then fields that are used twice, then the
percent signs are checked from left to right while the segments are split. -/

namespace VersionStamp

inductive TemplateError
  | whitespace (index : Nat)
  | repeatedField (field : Field) (index : Nat)
  /-- A percent sign with too little after it. -/
  | unbalanced (index : Nat)
  /-- A letter after a percent sign that no second percent sign follows. -/
  | unclosed (letter : Char) (index : Nat)
  | unknownField (letter : Char) (index : Nat)
  | badRecognizer (source : List Char) (cause : Pattern.ReadError)
  /-- A fault of the recognizer that is handed on as it is. -/
  | foreign (fault : Pattern.Fault)
  deriving DecidableEq, Repr

namespace TemplateError

def ofReadError (source : List Char) (cause : Pattern.ReadError) : TemplateError :=
  if cause.fault.isForeign then .foreign cause.fault else .badRecognizer source cause

def message : TemplateError → String
  | .whitespace _ => "Invalid pattern: whitespace not allowed in pattern"
  | .repeatedField field _ =>
    s!"Invalid pattern: {field.name} variable {String.ofList field.token} " ++
      "used more than once in pattern"
  | .unbalanced _ => "Invalid pattern: unbalanced % found at end of pattern"
  | .unclosed _ index => s!"Invalid pattern: invalid variable reference at pattern index {index}"
  | .unknownField letter index =>
    s!"Invalid pattern: invalid variable reference '{letter}' at pattern index {index}"
  | .badRecognizer source cause =>
    s!"Invalid recognizer pattern '{String.ofList source}': {cause.message source}"
  | .foreign fault => fault.message

def index? : TemplateError → Option Nat
  | .whitespace index => some index
  | .repeatedField _ index => some index
  | .unbalanced index => some index
  | .unclosed _ index => some index
  | .unknownField _ index => some index
  | .badRecognizer _ _ => none
  | .foreign _ => none

/-- The letter of the field at fault. -/
def letter? : TemplateError → Option Char
  | .repeatedField field _ => some field.letter
  | .unclosed letter _ => some letter
  | .unknownField letter _ => some letter
  | _ => none

end TemplateError

namespace Template

def blankIndex? (source : List Char) : Option Nat := source.findIdx? Text.isBlank

/-- Where the token of `letter` begins in a text that starts at `position`. The search goes from
left to right, and occurrences do not overlap. -/
def tokenStarts (letter : Char) : List Char → Nat → List Nat
  | [], _ => []
  | '%' :: c :: '%' :: rest, position =>
    if c = letter then position :: tokenStarts letter rest (position + 3)
    else tokenStarts letter (c :: '%' :: rest) (position + 1)
  | _ :: rest, position => tokenStarts letter rest (position + 1)

/-- The first field that is used twice, with the place of its second use. -/
def repeatedField? (source : List Char) : Option (Field × Nat) :=
  Field.all.findSome? fun field =>
    match tokenStarts field.letter source 0 with
    | _ :: second :: _ => some (field, second)
    | _ => none

/-- Puts a literal character in front of segments; it joins a literal that follows it. -/
def prependChar (c : Char) (position : Nat) : List Segment → List Segment
  | ⟨.literal text, _⟩ :: rest => ⟨.literal (c :: text), position⟩ :: rest
  | segments => ⟨.literal [c], position⟩ :: segments

def split : List Char → Nat → Except TemplateError (List Segment)
  | [], _ => .ok []
  | '%' :: '%' :: rest, position =>
    match split rest (position + 2) with
    | .ok segments => .ok (⟨.percent, position⟩ :: segments)
    | .error e => .error e
  | '%' :: c :: '%' :: rest, position =>
    match Field.ofLetter? c with
    | none => .error (.unknownField c (position + 1))
    | some field =>
      match split rest (position + 3) with
      | .ok segments => .ok (⟨.field field, position⟩ :: segments)
      | .error e => .error e
  | '%' :: c :: _ :: _, position => .error (.unclosed c (position + 2))
  | '%' :: _, position => .error (.unbalanced position)
  | c :: rest, position =>
    match split rest (position + 1) with
    | .ok segments => .ok (prependChar c position segments)
    | .error e => .error e

def segmentsOf (source : List Char) : Except TemplateError (List Segment) :=
  match blankIndex? source with
  | some index => .error (.whitespace index)
  | none =>
    match repeatedField? source with
    | some (field, index) => .error (.repeatedField field index)
    | none => split source 0

/-- Compiles a template. An empty source means the default template; without a recognizer the
pattern is derived from the segments. -/
def compile (source : List Char) (recognizer : Option (List Char)) :
    Except TemplateError Template := do
  let source := if source.isEmpty then defaultSource else source
  let segments ← segmentsOf source
  let recognizer := recognizer.getD (derivedRecognizer segments)
  match Pattern.ofText recognizer with
  | .ok pattern => return ⟨source, segments, recognizer, pattern⟩
  | .error cause => throw (.ofReadError recognizer cause)

end Template

end VersionStamp
