import VersionStamp.Calendar.Iso

/-! Dates and times as they are typed on a command line: `2024-3-1`, `2024-03-01T9:00:00` or
`2024-03-01 09:00:00`. Fields after the year may have one digit. -/

namespace VersionStamp.Calendar

/-- The forms that a field may have, each as the characters that it allows one after the other. -/
abbrev FieldForms := List (List (Char → Bool))

def within (first last c : Char) : Bool := first ≤ c && c ≤ last

def isChar (x c : Char) : Bool := c == x

def yearForms : FieldForms := [List.replicate 4 Text.isDigit]

def monthForms : FieldForms :=
  [[isChar '1', within '0' '2'], [isChar '0', within '1' '9'], [within '1' '9']]

def dayForms : FieldForms :=
  [[isChar '3', within '0' '1'], [within '1' '2', Text.isDigit], [isChar '0', within '1' '9'],
   [within '1' '9'], [isChar ' ', within '1' '9']]

def hourForms : FieldForms :=
  [[isChar '2', within '0' '3'], [within '0' '1', Text.isDigit], [Text.isDigit]]

def minuteForms : FieldForms := [[within '0' '5', Text.isDigit], [Text.isDigit]]

/-- Seconds leave room for leap seconds, which no clock of this library shows. -/
def secondForms : FieldForms :=
  [[isChar '6', within '0' '1'], [within '0' '5', Text.isDigit], [Text.isDigit]]

def fitsForm : List (Char → Bool) → List Char → Bool
  | [], _ => true
  | _ :: _, [] => false
  | p :: form, c :: text => p c && fitsForm form text

def takeField? (forms : FieldForms) (text : List Char) : Option (Nat × List Char) :=
  (forms.find? fun form => fitsForm form text).map fun form =>
    (Text.digitsValue (text.take form.length), text.drop form.length)

/-- What stands between a date and a time of day. -/
inductive TimeMark
  /-- The letter T in either case. -/
  | letter
  /-- White space. -/
  | blanks
  deriving DecidableEq, Repr

def TimeMark.drop? : TimeMark → List Char → Option (List Char)
  | .letter, c :: rest => if c == 'T' || c == 't' then some rest else none
  | .blanks, c :: rest => if Text.isBlank c then some (rest.dropWhile Text.isBlank) else none
  | _, [] => none

def takeDate? (text : List Char) : Option (Date × List Char) := do
  let (year, text) ← takeField? yearForms text
  let text ← takeChar? '-' text
  let (month, text) ← takeField? monthForms text
  let text ← takeChar? '-' text
  let (day, text) ← takeField? dayForms text
  return (⟨year, month, day⟩, text)

def readTyped? (mark : TimeMark) (text : List Char) : Option WallTime := do
  let (date, text) ← takeDate? text
  let text ← mark.drop? text
  let (hour, text) ← takeField? hourForms text
  let text ← takeChar? ':' text
  let (minute, text) ← takeField? minuteForms text
  let text ← takeChar? ':' text
  let (second, text) ← takeField? secondForms text
  if text.isEmpty then WallTime.ofFields? date hour minute second 0 else none

def readTypedDate? (text : List Char) : Option WallTime := do
  let (date, text) ← takeDate? text
  if text.isEmpty then WallTime.ofFields? date 0 0 0 0 else none

def readEntry? (text : List Char) : Option WallTime :=
  readTypedDate? text <|> readTyped? .letter text <|> readTyped? .blanks text

end VersionStamp.Calendar
