import VersionStamp.Calendar.Zone

/-! Zones written as rules: `EST5EDT,M3.2.0,M11.1.0` names standard time, its hours west of UTC,
daylight time, and the dates on which daylight time begins and ends. -/

namespace VersionStamp.Calendar

/-- The abbreviation at the front of a rule: letters, or anything between angle brackets. -/
def dropAbbreviation? (text : List Char) : Option (List Char) :=
  match text with
  | '<' :: rest =>
    match rest.dropWhile (· != '>') with
    | '>' :: rest => some rest
    | _ => none
  | _ =>
    if 3 ≤ (text.takeWhile Char.isAlpha).length then some (text.dropWhile Char.isAlpha) else none

def takeDigits? (text : List Char) : Option (Nat × List Char) :=
  let digits := text.takeWhile Char.isDigit
  if digits.isEmpty then none
  else some (Text.digitsValue digits, text.dropWhile Char.isDigit)

def takeAfterColon? (text : List Char) : Option (Nat × List Char) :=
  match text with
  | ':' :: rest => takeDigits? rest
  | _ => some (0, text)

/-- Hours, minutes and seconds with a sign, in seconds. Minutes and seconds may be left out. -/
def takeClock? (text : List Char) : Option (Int × List Char) := do
  let (negative, text) := Text.splitSign text
  let (hours, text) ← takeDigits? text
  let (minutes, text) ← takeAfterColon? text
  let (seconds, text) ← takeAfterColon? text
  let size : Int := (hours * 3600 + minutes * 60 + seconds : Nat)
  return (if negative then -size else size, text)

def takeAfterDot? (text : List Char) : Option (Nat × List Char) :=
  match text with
  | '.' :: rest => takeDigits? rest
  | _ => none

def takeYearlyDay? (text : List Char) : Option (YearlyDay × List Char) :=
  match text with
  | 'M' :: rest => do
    let (month, rest) ← takeDigits? rest
    let (week, rest) ← takeAfterDot? rest
    let (weekday, rest) ← takeAfterDot? rest
    if 1 ≤ month ∧ month ≤ 12 ∧ 1 ≤ week ∧ week ≤ 5 ∧ weekday ≤ 6 then
      return (.ofMonth month week weekday, rest)
    else none
  | 'J' :: rest => do
    let (day, rest) ← takeDigits? rest
    if 1 ≤ day ∧ day ≤ 365 then return (.numbered day, rest) else none
  | _ => do
    let (day, rest) ← takeDigits? text
    if day ≤ 365 then return (.elapsed day, rest) else none

/-- A day after a comma, with the time of the change after a slash where it is not 02:00. -/
def takeYearlyDate? (text : List Char) : Option (YearlyDate × List Char) :=
  match text with
  | ',' :: rest => do
    let (day, rest) ← takeYearlyDay? rest
    let (time, rest) ← match rest with
      | '/' :: rest => takeClock? rest
      | _ => some (7200, rest)
    return (⟨day, time⟩, rest)
  | _ => none

def usualDates : YearlyDate × YearlyDate :=
  (⟨.ofMonth 3 2 0, 7200⟩, ⟨.ofMonth 11 1 0, 7200⟩)

/-- Daylight time after the standard offset `standard`, up to the end of the rule. Unless written,
its clock is an hour ahead of the standard clock. -/
def readDaylight? (standard : Int) (text : List Char) : Option Daylight := do
  let text ← dropAbbreviation? text
  let (offset, text) ← match text with
    | [] => some (standard + 3600, [])
    | ',' :: _ => some (standard + 3600, text)
    | _ => (takeClock? text).map fun (west, rest) => (-west, rest)
  if text.isEmpty then
    return ⟨offset, usualDates.1, usualDates.2⟩
  let (start, text) ← takeYearlyDate? text
  let (finish, text) ← takeYearlyDate? text
  if text.isEmpty then return ⟨offset, start, finish⟩ else none

/-- Reads a zone rule. The hours of a rule are counted westwards. -/
def Zone.ofRule? (text : List Char) : Option Zone := do
  let text ← dropAbbreviation? text
  let (west, text) ← takeClock? text
  if text.isEmpty then
    return ⟨-west, none⟩
  let daylight ← readDaylight? (-west) text
  return ⟨-west, some daylight⟩

end VersionStamp.Calendar
