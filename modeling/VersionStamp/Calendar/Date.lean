/-! The proleptic Gregorian calendar. A day has a number, counted from 0001-01-01 as day 0, and
the years before that go on backwards without a gap. -/

namespace VersionStamp.Calendar

def isLeapYear (year : Int) : Bool :=
  year % 4 == 0 && (year % 100 != 0 || year % 400 == 0)

def daysBeforeYear (year : Int) : Int :=
  365 * (year - 1) + (year - 1) / 4 - (year - 1) / 100 + (year - 1) / 400

def daysBeforeMonth (leap : Bool) (month : Nat) : Nat :=
  let shift := if leap then 1 else 0
  match month with
  | 0 | 1 => 0
  | 2 => 31
  | 3 => 59 + shift
  | 4 => 90 + shift
  | 5 => 120 + shift
  | 6 => 151 + shift
  | 7 => 181 + shift
  | 8 => 212 + shift
  | 9 => 243 + shift
  | 10 => 273 + shift
  | 11 => 304 + shift
  | 12 => 334 + shift
  | _ => 365 + shift

def daysInMonth (leap : Bool) (month : Nat) : Nat :=
  daysBeforeMonth leap (month + 1) - daysBeforeMonth leap month

/-- The month in which day `yearDay` of a year falls, the first of January being day 0. -/
def monthOfYearDay (leap : Bool) (yearDay : Nat) : Nat :=
  ((List.range' 2 11).filter fun month => daysBeforeMonth leap month ≤ yearDay).length + 1

/-- The year of a day: whole cycles of four centuries, then centuries, then four years, then years.
The last century of a cycle and the last year of a group take the leap day on top. -/
def yearOfDay (day : Int) : Int :=
  let inCycle := day % 146097
  let century := min (inCycle / 36524) 3
  let inCentury := inCycle - 36524 * century
  let group := inCentury / 1461
  let inGroup := inCentury % 1461
  let year := min (inGroup / 365) 3
  400 * (day / 146097) + 100 * century + 4 * group + year + 1

structure Date where
  year : Int
  month : Nat
  day : Nat
  deriving DecidableEq, Repr

namespace Date

def dayNumber (d : Date) : Int :=
  daysBeforeYear d.year + daysBeforeMonth (isLeapYear d.year) d.month + (d.day : Int) - 1

def ofDayNumber (n : Int) : Date :=
  let year := yearOfDay n
  let leap := isLeapYear year
  let yearDay := (n - daysBeforeYear year).toNat
  let month := monthOfYearDay leap yearDay
  ⟨year, month, yearDay - daysBeforeMonth leap month + 1⟩

def IsValid (d : Date) : Prop :=
  1 ≤ d.month ∧ d.month ≤ 12 ∧ 1 ≤ d.day ∧ d.day ≤ daysInMonth (isLeapYear d.year) d.month

instance (d : Date) : Decidable d.IsValid := inferInstanceAs (Decidable (_ ∧ _))

end Date

/-- The day of the week, Sunday being 0. Day 0 is a Monday. -/
def dayOfWeek (day : Int) : Nat := ((day + 1) % 7).toNat

end VersionStamp.Calendar
