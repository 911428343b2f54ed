import Mathlib.Logic.Function.Iterate
import Mathlib.Tactic.Ring
import VersionStamp.Proofs.Calendar.Date

/-! Counting days. Going from a date to the next one, day by day, takes the day number up by one each
time, and going back takes it down. So the day number of a date says where counting leads, and a date
of the calendar is told by its day number. -/

namespace VersionStamp.Calendar

theorem daysBeforeMonth_succ : ∀ (leap : Bool), ∀ month < 13,
    daysBeforeMonth leap (month + 1) = daysBeforeMonth leap month + daysInMonth leap month := by
  decide

theorem daysInMonth_pos : ∀ (leap : Bool), ∀ month < 13, 1 ≤ month → 0 < daysInMonth leap month := by
  decide

theorem daysBeforeMonth_mono : ∀ (leap : Bool), ∀ n < 14, ∀ m ≤ n,
    daysBeforeMonth leap m ≤ daysBeforeMonth leap n := by
  decide

@[simp] theorem daysInMonth_december (leap : Bool) : daysInMonth leap 12 = 31 := by
  cases leap <;> rfl

@[simp] theorem daysBeforeMonth_january (leap : Bool) : daysBeforeMonth leap 1 = 0 := rfl

theorem daysBeforeMonth_end (leap : Bool) :
    daysBeforeMonth leap 13 = daysBeforeMonth leap 12 + 31 := by
  cases leap <;> rfl

theorem daysBeforeYear_succ_eq (year : Int) : daysBeforeYear (year + 1) =
    daysBeforeYear year + daysBeforeMonth (isLeapYear year) 12 + 31 := by
  rw [daysBeforeYear_succ]
  cases isLeapYear year <;> simp [daysBeforeMonth] <;> omega

namespace Date

/-- The day after. -/
def next (d : Date) : Date :=
  if d.day < daysInMonth (isLeapYear d.year) d.month then ⟨d.year, d.month, d.day + 1⟩
  else if d.month < 12 then ⟨d.year, d.month + 1, 1⟩
  else ⟨d.year + 1, 1, 1⟩

/-- The day before. -/
def previous (d : Date) : Date :=
  if 1 < d.day then ⟨d.year, d.month, d.day - 1⟩
  else if 1 < d.month then
    ⟨d.year, d.month - 1, daysInMonth (isLeapYear d.year) (d.month - 1)⟩
  else ⟨d.year - 1, 12, 31⟩

/-- So many days later, or earlier, one day after the other. -/
def later (d : Date) : Int → Date
  | .ofNat n => next^[n] d
  | .negSucc n => previous^[n + 1] d

variable {a b d : Date}

theorem IsValid.next (h : d.IsValid) : d.next.IsValid := by
  rcases h with ⟨hfirst, hlast, hday, hlength⟩
  unfold Date.next
  split_ifs with hin hyear
  · exact ⟨hfirst, hlast, by simp, hin⟩
  · have hpos : 0 < daysInMonth (isLeapYear d.year) (d.month + 1) :=
      daysInMonth_pos _ _ (by omega) (by omega)
    exact ⟨by simp, hyear, le_rfl, hpos⟩
  · have hpos : 0 < daysInMonth (isLeapYear (d.year + 1)) 1 :=
      daysInMonth_pos _ _ (by decide) le_rfl
    exact ⟨le_rfl, by simp, le_rfl, hpos⟩

theorem IsValid.dayNumber_next (h : d.IsValid) : d.next.dayNumber = d.dayNumber + 1 := by
  rcases h with ⟨hfirst, hlast, hday, hlength⟩
  have hmonth := daysBeforeMonth_succ (isLeapYear d.year) d.month (by omega)
  unfold Date.next
  split_ifs with hin hyear
  · simp only [dayNumber]
    omega
  · simp only [dayNumber, hmonth]
    omega
  · have hdecember : d.month = 12 := by omega
    rw [hdecember, daysInMonth_december] at hin hlength
    simp only [dayNumber, daysBeforeYear_succ_eq, hdecember, daysBeforeMonth_january]
    omega

theorem IsValid.previous (h : d.IsValid) : d.previous.IsValid := by
  rcases h with ⟨hfirst, hlast, hday, hlength⟩
  unfold Date.previous
  split_ifs with hin hyear
  · refine ⟨hfirst, hlast, ?_, ?_⟩ <;> simp only <;> omega
  · have hpos : 0 < daysInMonth (isLeapYear d.year) (d.month - 1) :=
      daysInMonth_pos _ _ (by omega) (by omega)
    refine ⟨?_, ?_, hpos, le_rfl⟩ <;> simp only <;> omega
  · refine ⟨by simp, le_rfl, by simp, ?_⟩
    rw [daysInMonth_december]

theorem IsValid.dayNumber_previous (h : d.IsValid) : d.previous.dayNumber = d.dayNumber - 1 := by
  rcases h with ⟨hfirst, hlast, hday, hlength⟩
  unfold Date.previous
  split_ifs with hin hyear
  · simp only [dayNumber]
    omega
  · have hmonth := daysBeforeMonth_succ (isLeapYear d.year) (d.month - 1) (by omega)
    rw [Nat.sub_add_cancel hfirst] at hmonth
    simp only [dayNumber, hmonth]
    omega
  · have hjanuary : d.month = 1 := by omega
    have hyearBefore := daysBeforeYear_succ_eq (d.year - 1)
    rw [sub_add_cancel] at hyearBefore
    simp only [dayNumber, hjanuary, hyearBefore, daysBeforeMonth_january]
    omega

/-- Steps that each change the day number by the same change it as often as they are taken. -/
theorem IsValid.iterate {step : Date → Date} {k : Int}
    (hstep : ∀ {d : Date}, d.IsValid → (step d).IsValid ∧ (step d).dayNumber = d.dayNumber + k)
    (h : d.IsValid) (n : Nat) :
    (step^[n] d).IsValid ∧ (step^[n] d).dayNumber = d.dayNumber + n * k := by
  induction n with
  | zero => exact ⟨h, by simp⟩
  | succ n ih =>
    rw [Function.iterate_succ_apply']
    refine ⟨(hstep ih.1).1, ?_⟩
    rw [(hstep ih.1).2, ih.2]
    push_cast
    ring

theorem IsValid.later_spec (h : d.IsValid) (n : Int) :
    (d.later n).IsValid ∧ (d.later n).dayNumber = d.dayNumber + n := by
  cases n with
  | ofNat n =>
    have hforth := h.iterate (k := 1) (fun hd => ⟨hd.next, hd.dayNumber_next⟩) n
    rw [mul_one] at hforth
    exact hforth
  | negSucc n =>
    have hback := h.iterate (k := -1) (fun hd => ⟨hd.previous, hd.dayNumber_previous⟩) (n + 1)
    refine ⟨hback.1, hback.2.trans ?_⟩
    rw [Int.negSucc_eq]
    push_cast
    ring

/-! ### Dates told by their numbers -/

theorem IsValid.dayNumber_between (h : d.IsValid) :
    daysBeforeYear d.year ≤ d.dayNumber ∧ d.dayNumber < daysBeforeYear (d.year + 1) := by
  rcases h with ⟨hfirst, hlast, hday, hlength⟩
  have hmonth := daysBeforeMonth_succ (isLeapYear d.year) d.month (by omega)
  have hyear := daysBeforeMonth_mono (isLeapYear d.year) 13 (by decide) (d.month + 1) (by omega)
  have hdecember := daysBeforeMonth_end (isLeapYear d.year)
  rw [daysBeforeYear_succ_eq, dayNumber]
  omega

theorem IsValid.year_between_iff (h : d.IsValid) {lower upper : Int} :
    (lower ≤ d.year ∧ d.year ≤ upper) ↔
      daysBeforeYear lower ≤ d.dayNumber ∧ d.dayNumber < daysBeforeYear (upper + 1) := by
  rcases h.dayNumber_between with ⟨hfirst, hlast⟩
  constructor
  · rintro ⟨hlower, hupper⟩
    have := daysBeforeYear_mono hlower
    have := daysBeforeYear_mono (show d.year + 1 ≤ upper + 1 by omega)
    omega
  · rintro ⟨hlower, hupper⟩
    by_contra hout
    rcases lt_or_ge d.year lower with hbefore | hbefore
    · have := daysBeforeYear_mono (show d.year + 1 ≤ lower by omega)
      omega
    · have := daysBeforeYear_mono (show upper + 1 ≤ d.year by omega)
      omega

/-- Months of a year that share a day are the same. -/
theorem month_eq_of_overlap (leap : Bool) (yearDay : Nat) {m n : Nat} (hm : m < 13) (hn : n < 13)
    (hday : daysBeforeMonth leap m ≤ yearDay ∧ yearDay < daysBeforeMonth leap (m + 1))
    (hday' : daysBeforeMonth leap n ≤ yearDay ∧ yearDay < daysBeforeMonth leap (n + 1)) :
    m = n := by
  rcases lt_trichotomy m n with hlt | heq | hgt
  · have := daysBeforeMonth_mono leap n (by omega) (m + 1) hlt
    omega
  · exact heq
  · have := daysBeforeMonth_mono leap m (by omega) (n + 1) hgt
    omega

theorem IsValid.eq_of_dayNumber_eq (ha : a.IsValid) (hb : b.IsValid)
    (h : a.dayNumber = b.dayNumber) : a = b := by
  have hyear : a.year = b.year := by
    have hsame : a.year ≤ b.year ∧ b.year ≤ a.year :=
      hb.year_between_iff.2 (h ▸ ha.dayNumber_between)
    exact le_antisymm hsame.1 hsame.2
  rcases a with ⟨year, m, k⟩
  rcases b with ⟨_, n, l⟩
  obtain rfl : year = _ := hyear
  rcases ha with ⟨hfirst, hlast, hday, hlength⟩
  rcases hb with ⟨hfirst', hlast', hday', hlength'⟩
  simp only [dayNumber] at hfirst hlast hday hlength hfirst' hlast' hday' hlength' h
  have hmonth := daysBeforeMonth_succ (isLeapYear year) m (by omega)
  have hmonth' := daysBeforeMonth_succ (isLeapYear year) n (by omega)
  obtain rfl : m = n := month_eq_of_overlap (isLeapYear year)
    (daysBeforeMonth (isLeapYear year) m + k - 1) (by omega) (by omega) (by omega) (by omega)
  rw [Date.mk.injEq]
  exact ⟨rfl, rfl, by omega⟩

theorem IsValid.ofDayNumber_dayNumber (h : d.IsValid) : ofDayNumber d.dayNumber = d :=
  (isValid_ofDayNumber _).eq_of_dayNumber_eq h (dayNumber_ofDayNumber _)

end Date

end VersionStamp.Calendar
