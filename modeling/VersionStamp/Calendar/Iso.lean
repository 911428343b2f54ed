import VersionStamp.Calendar.Timestamp

/-! Timestamps in the form `2024-03-01T09:00:00+00:00`, with six digits of microseconds, and with
seconds and microseconds of the offset, only where they are not zero. -/

namespace VersionStamp.Calendar

open Text (padded)

def fractionText (micros : Nat) : List Char :=
  if micros = 0 then [] else '.' :: padded 6 micros

def offsetText (offset : Int) : List Char :=
  let micros := offset.natAbs % 1000000
  let size := offset.natAbs / 1000000
  let seconds := size % 60
  (if offset < 0 then '-' else '+') :: padded 2 (size / 3600) ++ ':' :: padded 2 (size / 60 % 60) ++
    if seconds = 0 ∧ micros = 0 then [] else ':' :: padded 2 seconds ++ fractionText micros

def WallTime.iso (w : WallTime) : List Char :=
  padded 4 w.date.year.toNat ++ '-' :: padded 2 w.date.month ++ '-' :: padded 2 w.date.day ++
    'T' :: padded 2 w.hour ++ ':' :: padded 2 w.minute ++ ':' :: padded 2 w.second ++
    fractionText w.micros

def Timestamp.iso (t : Timestamp) : List Char := t.wall.iso ++ offsetText t.offset

def takeNumber? (width : Nat) (text : List Char) : Option (Nat × List Char) :=
  let digits := text.take width
  if digits.length = width ∧ digits.all Char.isDigit then
    some (Text.digitsValue digits, text.drop width)
  else none

def takeChar? (c : Char) : List Char → Option (List Char)
  | x :: rest => if x = c then some rest else none
  | [] => none

/-- Three numbers set apart by `separator`, the first of `width` digits and the others of two. -/
def takeTriple? (width : Nat) (separator : Char) (text : List Char) :
    Option ((Nat × Nat × Nat) × List Char) := do
  let (a, text) ← takeNumber? width text
  let text ← takeChar? separator text
  let (b, text) ← takeNumber? 2 text
  let text ← takeChar? separator text
  let (c, text) ← takeNumber? 2 text
  return ((a, b, c), text)

def WallTime.ofFields? (date : Date) (hour minute second micros : Nat) : Option WallTime :=
  if date.IsValid ∧ hour < 24 ∧ minute < 60 ∧ second < 60 then
    let seconds := date.dayNumber * secondsPerDay + (hour * 3600 + minute * 60 + second : Nat)
    if h : (0 ≤ seconds ∧ seconds < endOfTime) ∧ micros < 1000000 then
      some ⟨seconds, micros, h.1, h.2⟩
    else none
  else none

def takeFraction? (text : List Char) : Option (Nat × List Char) :=
  match text with
  | '.' :: rest => takeNumber? 6 rest
  | _ => some (0, text)

/-- Reads an offset up to the end of the text, in microseconds. -/
def readOffset? (text : List Char) : Option Int := do
  let (sign, text) ← match text with
    | '+' :: rest => some ((1 : Int), rest)
    | '-' :: rest => some ((-1 : Int), rest)
    | _ => none
  let (hours, text) ← takeNumber? 2 text
  let text ← takeChar? ':' text
  let (minutes, text) ← takeNumber? 2 text
  let (seconds, text) ← match text with
    | ':' :: rest => takeNumber? 2 rest
    | _ => some (0, text)
  let (micros, text) ← takeFraction? text
  if text.isEmpty then
    return sign * ((hours * 3600 + minutes * 60 + seconds) * 1000000 + micros : Nat)
  else none

/-- Reads a wall-clock time, and the offset where one is written after it. -/
def readIso? (text : List Char) : Option (WallTime × Option Int) := do
  let ((year, month, day), text) ← takeTriple? 4 '-' text
  let text ← takeChar? 'T' text
  let ((hour, minute, second), text) ← takeTriple? 2 ':' text
  let (micros, text) ← takeFraction? text
  let wall ← WallTime.ofFields? ⟨year, month, day⟩ hour minute second micros
  if text.isEmpty then
    return (wall, none)
  let offset ← readOffset? text
  return (wall, some offset)

end VersionStamp.Calendar
