import VersionStamp.Calendar.Timestamp
import VersionStamp.Config.Overrides
import VersionStamp.Pattern.Match
import VersionStamp.Pattern.Reader
import VersionStamp.Yaml.Node

/-! The values of YAML nodes. A plain scalar is a null, a truth value, a number or a date if it is
written like one, and text otherwise; quoted scalars are text. A number or a date that is written in
the right form and still has no value ends the reading with an error of its own. The program reads
its settings in this way; what is proved of settings holds whatever reads them. -/

namespace VersionStamp.Yaml

open Calendar

inductive Fault
  /-- It is no YAML, or it has tags or keys that do not fit. -/
  | malformed
  | noValue (e : ConfigError)

def ofOption (value : Option α) : Except Fault α :=
  match value with
  | some value => .ok value
  | none => .error .malformed

def noSuchValue (message : String) : Except Fault α := .error (.noValue (.noSuchValue message))

def isLike (pattern : String) (text : List Char) : Bool :=
  match Pattern.ofText pattern.toList with
  | .ok p => p.matchesAll text
  | .error _ => false

def truth? (text : String) : Option Bool :=
  if ["yes", "Yes", "YES", "true", "True", "TRUE", "on", "On", "ON"].contains text then
    some true
  else if ["no", "No", "NO", "false", "False", "FALSE", "off", "Off", "OFF"].contains text then
    some false
  else none

def isNull (text : String) : Bool := ["", "~", "null", "Null", "NULL"].contains text

def integerForm : String :=
  "[-+]?0b[0-1_]+|[-+]?0[0-7_]+|[-+]?(?:0|[1-9][0-9_]*)|[-+]?0x[0-9a-fA-F_]+|" ++
    "[-+]?[1-9][0-9_]*(?::[0-5]?[0-9])+"

def floatForm : String :=
  "[-+]?[0-9][0-9_]*\\.[0-9_]*(?:[eE][-+][0-9]+)?|\\.[0-9][0-9_]*(?:[eE][-+][0-9]+)?|" ++
    "[-+]?[0-9][0-9_]*(?::[0-5]?[0-9])+\\.[0-9_]*|[-+]?\\.(?:inf|Inf|INF)|\\.(?:nan|NaN|NAN)"

def dateForm : String :=
  "[0-9][0-9][0-9][0-9]-[0-9][0-9]-[0-9][0-9]|" ++
    "[0-9][0-9][0-9][0-9]-[0-9][0-9]?-[0-9][0-9]?(?:[Tt]|[ \\t]+)[0-9][0-9]?:[0-9][0-9]:" ++
    "[0-9][0-9](?:\\.[0-9]*)?(?:[ \\t]*(?:Z|[-+][0-9][0-9]?(?::[0-9][0-9])?))?"

def sexagesimal (parts : List Int) : Int := parts.foldl (fun n part => 60 * n + part) 0

/-- The value of a decimal numeral, which has a limit on its digits. -/
def decimalValue (text : List Char) : Except Fault Int :=
  match Text.readInt text with
  | .ok i => .ok i
  | .error e => noSuchValue e.message

/-- The value of digits of another base, for which there is no limit. -/
def baseValue (base : Nat) (digits : List Char) : Except Fault Int :=
  match if digits.isEmpty then none else valueInBase base digits with
  | some n => .ok n
  | none => noSuchValue (s!"invalid literal for int() with base {base}: " ++
      String.ofList (Text.quoted digits))

def integerValue (text : List Char) : Except Fault Int := do
  let (negative, digits) := Text.splitSign (text.filter (· != '_'))
  let size ← match digits with
    | ['0'] => pure 0
    | '0' :: 'b' :: rest => baseValue 2 rest
    | '0' :: 'x' :: rest => baseValue 16 rest
    | '0' :: _ => baseValue 8 digits
    | _ =>
      if digits.contains ':' then ((digits.splitOn ':').mapM decimalValue).map sexagesimal
      else decimalValue digits
  return if negative then -size else size

def decimalFloat (text : List Char) : Float :=
  let whole := text.takeWhile Char.isDigit
  let rest := text.dropWhile Char.isDigit
  let fraction := (rest.drop 1).takeWhile Char.isDigit
  let exponent := ((rest.drop 1).dropWhile Char.isDigit).drop 1
  let (negative, digits) := Text.splitSign exponent
  let mantissa := Text.digitsValue (whole ++ fraction)
  let size : Int := Text.digitsValue digits
  let scale : Int := (if negative then -size else size) - fraction.length
  if scale < 0 then Float.ofScientific mantissa true scale.natAbs
  else Float.ofScientific mantissa false scale.natAbs

def floatValue (text : List Char) : Float :=
  let (negative, size) := Text.splitSign (text.filter (· != '_'))
  let value :=
    match Text.lower size with
    | '.' :: 'i' :: _ => 1.0 / 0.0
    | '.' :: 'n' :: _ => 0.0 / 0.0
    | size => (size.splitOn ':').foldl (fun n part => 60.0 * n + decimalFloat part) 0.0
  if negative then -value else value

def numbersOf (text : List Char) : List Nat :=
  ((text.splitBy fun c d => c.isDigit == d.isDigit).filter (·.all Char.isDigit)).map Text.digitsValue

def dateFault? : List Nat → Option String
  | year :: month :: day :: _ =>
    if year = 0 then some "year 0 is out of range"
    else if month = 0 ∨ 12 < month then some "month must be in 1..12"
    else if day = 0 ∨ daysInMonth (isLeapYear year) month < day then
      some "day is out of range for month"
    else none
  | _ => none

def timeFault? : List Nat → Option String
  | hour :: minute :: second :: _ =>
    if 24 ≤ hour then some "hour must be in 0..23"
    else if 60 ≤ minute then some "minute must be in 0..59"
    else if 60 ≤ second then some "second must be in 0..59"
    else none
  | _ => none

def shownDuration (seconds : Int) : String :=
  let rest := seconds % secondsPerDay
  let days := s!"days={seconds / secondsPerDay}"
  s!"datetime.timedelta({days}" ++ (if rest = 0 then "" else s!", seconds={rest}") ++ ")"

def offsetFault? (negative : Bool) : List Nat → Option String
  | hours :: minutes =>
    let size : Int := hours * 3600 + minutes.headD 0 * 60
    if size < secondsPerDay then none
    else some ("offset must be a timedelta strictly between -timedelta(hours=24) and " ++
      s!"timedelta(hours=24), not {shownDuration (if negative then -size else size)}.")
  | [] => none

/-- The value of a text that has the form of a date, with or without a time of day. The offset is looked
at first. -/
def dateValue (text : List Char) : Except Fault Value :=
  let date := text.takeWhile fun c => c.isDigit || c == '-'
  let rest := text.drop date.length
  let time := rest.takeWhile fun c => c != '+' && c != '-' && c != 'Z'
  let offset := rest.drop time.length
  let fault? := (offsetFault? (offset.head? == some '-') (numbersOf offset)).or
    ((dateFault? (numbersOf date)).or (timeFault? (numbersOf time)))
  match fault? with
  | some message => noSuchValue message
  | none => .ok (.date (String.ofList text))

/-- The value of a plain scalar. Two signs with a meaning for mappings have no value. -/
def plainValue (text : List Char) : Except Fault Value :=
  let written := String.ofList text
  if isNull written then .ok .null
  else
    match truth? written with
    | some b => .ok (.bool b)
    | none =>
      if isLike floatForm text then .ok (.float (floatValue text))
      else if isLike integerForm text then (integerValue text).map .int
      else if isLike dateForm text then dateValue text
      else if written == "<<" || written == "=" then .error .malformed
      else .ok (.text written)

def taggedFloatForm : String :=
  "\\s*[-+]?(?:[0-9]+\\.?[0-9]*|\\.[0-9]+)(?:[eE][-+]?[0-9]+)?\\s*"

def taggedValue (tag : String) (text : List Char) : Except Fault Value :=
  match tag with
  | "!" | "!!str" => .ok (.text (String.ofList text))
  | "!!null" => .ok .null
  | "!!bool" =>
    match truth? (String.ofList (Text.lower text)) with
    | some b => .ok (.bool b)
    | none => .error (.noValue (.missingKey (String.ofList (Text.lower text))))
  | "!!int" => (integerValue text).map .int
  | "!!float" =>
    if isLike floatForm text || isLike taggedFloatForm (text.filter (· != '_')) then
      .ok (.float (floatValue (Text.strip text)))
    else noSuchValue ("could not convert string to float: " ++
      String.ofList (Text.quoted (Text.lower (text.filter (· != '_')))))
  | "!!timestamp" =>
    if isLike dateForm text then dateValue text else noSuchValue "this is no date"
  | _ => .error .malformed

def scalarValue (text : List Char) (plain : Bool) (tag : Option (List Char)) : Except Fault Value :=
  match tag with
  | none => if plain then plainValue text else .ok (.text (String.ofList text))
  | some tag => taggedValue (String.ofList tag) text

/-- The text of a key. Sequences and mappings are no keys. -/
def keyText : Value → Except Fault String
  | .null => .ok "null"
  | .bool b => .ok (if b then "true" else "false")
  | .int i => .ok (toString i)
  | .float f => .ok (String.ofList (Decimal.floatText f))
  | .text s => .ok s
  | .date written => .ok written
  | .list _ | .mapping _ => .error .malformed

def isMergeKey : Node → Bool
  | .scalar text plain none => plain && text == ['<', '<']
  | _ => false

def keyOf (node : Node) : Except Fault String :=
  match node with
  | .scalar text true none => if text == ['='] then .ok "=" else plainValue text >>= keyText
  | .scalar text plain tag => scalarValue text plain tag >>= keyText
  | _ => .error .malformed

/-- The entries that a merge key takes over: those of a mapping, or of several, the first of which
counts most. -/
def mergedEntries? : Value → Option (List (String × Value))
  | .mapping entries => some entries
  | .list items =>
    items.reverse.foldlM (fun merged item =>
      match item with
      | .mapping entries =>
        some (entries.foldl (fun merged entry => setKey entry.1 entry.2 merged) merged)
      | _ => none) []
  | _ => none

mutual

def toValue : Node → Except Fault Value
  | .scalar text plain tag => scalarValue text plain tag
  | .sequence items tag =>
    if tag.all fun t => t == "!!seq".toList || t == ['!'] then (itemValues items).map .list
    else .error .malformed
  | .mapping entries tag =>
    if tag.all fun t => t == "!!map".toList || t == ['!'] then do
      let (merged, own) ← entryValues entries
      return .mapping (own.foldl (fun entries entry => setKey entry.1 entry.2 entries) merged)
    else .error .malformed

def itemValues : List Node → Except Fault (List Value)
  | [] => .ok []
  | node :: rest => do
    let value ← toValue node
    return value :: (← itemValues rest)

/-- The entries that are taken over and the entries of the mapping itself, in their order. -/
def entryValues : List (Node × Node) →
    Except Fault (List (String × Value) × List (String × Value))
  | [] => .ok ([], [])
  | (key, node) :: rest => do
    if isMergeKey key then
      let taken ← ofOption (mergedEntries? (← toValue node))
      let (merged, own) ← entryValues rest
      return (merged.foldl (fun entries entry => setKey entry.1 entry.2 entries) taken, own)
    else
      let name ← keyOf key
      let value ← toValue node
      let (merged, own) ← entryValues rest
      return (merged, (name, value) :: own)

end

/-- The value of a YAML text; null where it has no document. -/
def valueOf (text : List Char) : Except Fault Value := do
  match ← ofOption ((tokens? text).bind nodeOfTokens?) with
  | none => return .null
  | some node => toValue node

/-- What a file with a YAML text comes to. -/
def read (text : List Char) : Config.Document :=
  match valueOf text with
  | .ok value => .found value
  | .error .malformed => .unreadable
  | .error (.noValue e) => .failed e

end VersionStamp.Yaml
