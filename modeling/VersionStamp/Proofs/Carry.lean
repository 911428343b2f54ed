import VersionStamp.Proofs.Assemble
import VersionStamp.Proofs.Calendar.Counting
import VersionStamp.Parse

/-! Dates whose fields are too large for their places. The month is carried into the year, and from
the first of that month on the days are counted one after the other; whole days of the time of day
are counted with them. A date and a time of day in digits make a timestamp just where this leads to
a day of the calendar, and then the timestamp shows that day. -/

namespace VersionStamp

open Calendar

namespace DateFields

/-- The first day of the month, with the month carried into the year. -/
def first (f : DateFields) : Date := ⟨f.carriedYear, f.carriedMonth, 1⟩

/-- Seconds since midnight, however many. -/
def clockSeconds (f : DateFields) : Int := f.hour * 3600 + f.minute * 60 + f.second

/-- The day that is reached when everything is carried over. -/
def carriedDate (f : DateFields) : Date :=
  f.first.later (f.day - 1 + f.clockSeconds / secondsPerDay)

variable {f : DateFields}

theorem first_isValid (f : DateFields) : f.first.IsValid := by
  have hpos := daysInMonth_pos (isLeapYear f.carriedYear) f.carriedMonth
  have hmonth : 1 ≤ f.carriedMonth ∧ f.carriedMonth ≤ 12 := by
    simp only [carriedMonth]
    omega
  exact ⟨hmonth.1, hmonth.2, le_rfl, hpos (by omega) hmonth.1⟩

theorem carriedDate_isValid (f : DateFields) : f.carriedDate.IsValid :=
  (f.first_isValid.later_spec _).1

theorem dayNumber_carriedDate (f : DateFields) :
    f.carriedDate.dayNumber = f.first.dayNumber + (f.day - 1 + f.clockSeconds / secondsPerDay) :=
  (f.first_isValid.later_spec _).2

theorem seconds_eq (f : DateFields) :
    f.seconds = f.carriedDate.dayNumber * secondsPerDay + f.clockSeconds % secondsPerDay := by
  rw [dayNumber_carriedDate, seconds, duration, first]
  simp only [clockSeconds, secondsPerDay]
  omega

theorem seconds_div_eq (f : DateFields) : f.seconds / secondsPerDay = f.carriedDate.dayNumber := by
  rw [seconds_eq]
  simp only [secondsPerDay]
  omega

theorem seconds_mod_eq (f : DateFields) :
    f.seconds % secondsPerDay = f.clockSeconds % secondsPerDay := by
  rw [seconds_eq]
  simp only [secondsPerDay]
  omega

theorem seconds_inRange_iff (f : DateFields) : (0 ≤ f.seconds ∧ f.seconds < endOfTime) ↔
    1 ≤ f.carriedDate.year ∧ f.carriedDate.year ≤ 9999 := by
  rw [f.carriedDate_isValid.year_between_iff, seconds_eq]
  have hstart : daysBeforeYear 1 = 0 := by decide
  have hend : daysBeforeYear (9999 + 1) = 3652059 := by decide
  rw [hstart, hend]
  simp only [endOfTime, secondsPerDay]
  omega

/-- Days, hours, minutes and seconds are no negative numbers. -/
structure IsCount (f : DateFields) : Prop where
  day : 0 ≤ f.day
  hour : 0 ≤ f.hour
  minute : 0 ≤ f.minute
  second : 0 ≤ f.second

theorem IsCount.checkDuration (hf : f.IsCount) (hyear : 1 ≤ f.carriedYear)
    (hend : f.seconds < endOfTime) : f.checkDuration = .ok () := by
  rcases hf with ⟨hday, hhour, hminute, hsecond⟩
  have hfirst : 0 ≤ f.first.dayNumber := by
    have hmono := daysBeforeYear_mono hyear
    have hstart : daysBeforeYear 1 = 0 := by decide
    have := f.first_isValid.dayNumber_between.1
    simp only [first] at this ⊢
    omega
  have hdays : -1 ≤ f.duration / secondsPerDay ∧ f.duration / secondsPerDay < 3652059 := by
    rw [seconds, ← first] at hend
    simp only [duration, secondsPerDay, endOfTime] at hend ⊢
    omega
  simp only [DateFields.checkDuration]
  rw [if_neg (by omega), if_neg (by omega)]

theorem IsCount.toWall_eq_ok_iff (hf : f.IsCount) {wall : WallTime} : f.toWall = .ok wall ↔
    (1 ≤ f.carriedYear ∧ f.carriedYear ≤ 9999) ∧ wall.seconds = f.seconds ∧ wall.micros = 0 := by
  constructor
  · intro h
    refine ⟨?_, toWall_eq_ok h⟩
    rw [toWall] at h
    split at h
    · cases h
    · omega
  · rintro ⟨hyear, hseconds, hmicros⟩
    have hrange := wall.seconds_inRange
    rw [hseconds] at hrange
    rw [toWall, if_neg (by omega), hf.checkDuration hyear.1 hrange.2]
    change WallTime.ofSeconds f.seconds = _
    rw [WallTime.ofSeconds, dif_pos hrange, Except.ok.injEq, WallTime.mk.injEq]
    exact ⟨hseconds.symm, hmicros.symm⟩

/-- The numbers in the digits of a date and a time of day. -/
def ofDigits (date time : List Char) : DateFields where
  year := Text.digitsValue (date.take 4)
  month := Text.digitsValue ((date.drop 4).take 2)
  day := Text.digitsValue (date.drop 6)
  hour := Text.digitsValue (time.take 2)
  minute := Text.digitsValue ((time.drop 2).take 2)
  second := Text.digitsValue (time.drop 4)

theorem isCount_ofDigits (date time : List Char) : (ofDigits date time).IsCount :=
  ⟨Int.natCast_nonneg _, Int.natCast_nonneg _, Int.natCast_nonneg _, Int.natCast_nonneg _⟩

end DateFields

/-- Enough digits for every field of a date and a time of day, and not too many for any. -/
structure HasFields (date time : List Char) : Prop where
  date_length : 7 ≤ date.length
  day_length : (date.drop 6).length ≤ Text.digitLimit
  time_length : time = [] ∨ 5 ≤ time.length
  second_length : (time.drop 4).length ≤ Text.digitLimit

theorem readField_eq {digits : List Char} (h : Text.AllDigits digits) (hne : digits ≠ []) :
    readField digits = if digits.length ≤ Text.digitLimit then
      .ok (Text.digitsValue digits : Int) else .error (.notNumber (.tooLong digits.length)) := by
  split
  · exact readField_of_allDigits h hne ‹_›
  · rw [readField, Text.readInt_of_allDigits h hne, Text.readDigits, if_neg ‹_›]
    rfl

theorem readField_eq_ok_iff {digits : List Char} (h : Text.AllDigits digits) (hne : digits ≠ [])
    {n : Int} : readField digits = .ok n ↔
      digits.length ≤ Text.digitLimit ∧ n = Text.digitsValue digits := by
  rw [readField_eq h hne]
  split <;> simp_all [eq_comm]

theorem allDigits_take {text : List Char} (h : Text.AllDigits text) (n : Nat) :
    Text.AllDigits (text.take n) := fun c hc => h c (List.mem_of_mem_take hc)

theorem allDigits_drop {text : List Char} (h : Text.AllDigits text) (n : Nat) :
    Text.AllDigits (text.drop n) := fun c hc => h c (List.mem_of_mem_drop hc)

theorem readField_width_iff {text : List Char} (h : Text.AllDigits text) {start width : Nat}
    (hstart : start < text.length) (hwidth : 0 < width) (hlimit : width ≤ Text.digitLimit)
    {n : Int} : readField ((text.drop start).take width) = .ok n ↔
      n = Text.digitsValue ((text.drop start).take width) := by
  have hlength : ((text.drop start).take width).length ≤ Text.digitLimit :=
    (List.length_take_le _ _).trans hlimit
  rw [readField_eq_ok_iff (allDigits_take (allDigits_drop h start) width)]
  · simp only [hlength, true_and]
  · simp [hwidth.ne', hstart]

theorem readField_rest_iff {text : List Char} (h : Text.AllDigits text) {start : Nat}
    (hstart : start < text.length) {n : Int} : readField (text.drop start) = .ok n ↔
      (text.drop start).length ≤ Text.digitLimit ∧ n = Text.digitsValue (text.drop start) :=
  readField_eq_ok_iff (allDigits_drop h start) (by simp [hstart])

/-- Digits make fields just where there are enough for every field and not too many for any. -/
theorem readDateFields_allDigits {date time : List Char} (hdate : Text.AllDigits date)
    (htime : Text.AllDigits time) {f : DateFields} :
    readDateFields date time = .ok f ↔ HasFields date time ∧ f = .ofDigits date time := by
  have hwidth : 4 ≤ Text.digitLimit ∧ 2 ≤ Text.digitLimit := by decide
  have hyear (h : 7 ≤ date.length) : readField (date.take 4) = .ok f.year ↔ _ :=
    readField_width_iff hdate (show 0 < date.length by omega) (by decide) hwidth.1
  have hmonth (h : 7 ≤ date.length) : readField ((date.drop 4).take 2) = .ok f.month ↔ _ :=
    readField_width_iff hdate (by omega) (by decide) hwidth.2
  have hday (h : 7 ≤ date.length) : readField (date.drop 6) = .ok f.day ↔ _ :=
    readField_rest_iff hdate (by omega)
  have hhour (h : 5 ≤ time.length) : readField (time.take 2) = .ok f.hour ↔ _ :=
    readField_width_iff htime (show 0 < time.length by omega) (by decide) hwidth.2
  have hminute (h : 5 ≤ time.length) : readField ((time.drop 2).take 2) = .ok f.minute ↔ _ :=
    readField_width_iff htime (by omega) (by decide) hwidth.2
  have hsecond (h : 5 ≤ time.length) : readField (time.drop 4) = .ok f.second ↔ _ :=
    readField_rest_iff htime (by omega)
  rw [readDateFields_eq_ok_iff]
  constructor
  · rintro ⟨hlength, hy, hm, hd, hclock⟩
    rw [hyear hlength] at hy
    rw [hmonth hlength] at hm
    rw [hday hlength] at hd
    rcases f with ⟨_, _, _, _, _, _⟩
    rcases hclock with ⟨rfl, hh, hmin, hs⟩ | ⟨htime, hh, hmin, hs⟩
    · refine ⟨⟨hlength, hd.1, .inl rfl, by simp⟩, ?_⟩
      exact DateFields.mk.injEq .. ▸ ⟨hy, hm, hd.2, hh, hmin, hs⟩
    · rw [hhour htime] at hh
      rw [hminute htime] at hmin
      rw [hsecond htime] at hs
      refine ⟨⟨hlength, hd.1, .inr htime, hs.1⟩, ?_⟩
      exact DateFields.mk.injEq .. ▸ ⟨hy, hm, hd.2, hh, hmin, hs.2⟩
  · rintro ⟨⟨hlength, hdayLength, hclock, hsecondLength⟩, rfl⟩
    refine ⟨hlength, (hyear hlength).2 rfl, (hmonth hlength).2 rfl,
      (hday hlength).2 ⟨hdayLength, rfl⟩, ?_⟩
    rcases hclock with rfl | htime
    · exact .inl ⟨rfl, rfl, rfl, rfl⟩
    · exact .inr ⟨htime, (hhour htime).2 rfl, (hminute htime).2 rfl,
        (hsecond htime).2 ⟨hsecondLength, rfl⟩⟩

/-- A date and a time of day in digits that lead to a day of the years 1 to 9999. -/
structure Datable (date time : List Char) : Prop extends HasFields date time where
  /-- Where the month begins. -/
  year_inRange : 1 ≤ (DateFields.ofDigits date time).carriedYear ∧
    (DateFields.ofDigits date time).carriedYear ≤ 9999
  /-- Where the days lead to. -/
  date_inRange : 1 ≤ (DateFields.ofDigits date time).carriedDate.year ∧
    (DateFields.ofDigits date time).carriedDate.year ≤ 9999

theorem assemble_utc_eq_ok_iff {date time : List Char} (hdate : Text.AllDigits date)
    (htime : Text.AllDigits time) {zone : Zone} {timestamp : Timestamp} :
    assemble zone .utc date time = .ok timestamp ↔ HasFields date time ∧
      (DateFields.ofDigits date time).toWall = .ok timestamp.wall ∧ timestamp.offset = 0 := by
  rw [assemble, mapError_eq_ok]
  constructor
  · intro h
    rcases bind_eq_ok.1 h with ⟨fields, hfields, hmade⟩
    rcases bind_eq_ok.1 hmade with ⟨wall, hwall, hshown⟩
    rcases (readDateFields_allDigits hdate htime).1 hfields with ⟨hlengths, rfl⟩
    cases mapError_eq_ok.1 hshown
    exact ⟨hlengths, mapError_eq_ok.1 hwall, rfl⟩
  · rintro ⟨hlengths, hwall, hoffset⟩
    have hfields := (readDateFields_allDigits hdate htime).2 ⟨hlengths, rfl⟩
    rcases timestamp with ⟨wall, offset⟩
    obtain rfl : offset = 0 := hoffset
    exact bind_eq_ok.2 ⟨_, hfields, bind_eq_ok.2 ⟨wall, mapError_eq_ok.2 hwall, rfl⟩⟩

/-- In UTC a date and a time of day in digits make a timestamp just where counting days from the
first of the month, and seconds from midnight, stays in the calendar. The timestamp shows the day
and the second that are reached. What makes none is an error about the date. -/
theorem assemble_utc_digits {date time : List Char} (hdate : Text.AllDigits date)
    (htime : Text.AllDigits time) (zone : Zone) :
    (Datable date time → ∃ wall, assemble zone .utc date time = .ok ⟨wall, 0⟩ ∧
      wall.date = (DateFields.ofDigits date time).carriedDate ∧
      (wall.secondOfDay : Int) =
        (DateFields.ofDigits date time).clockSeconds % secondsPerDay ∧
      wall.micros = 0) ∧
    (¬Datable date time → ∃ e, assemble zone .utc date time = .error e ∧
      (ParseError.assembly e).position = 0) := by
  have hcount := DateFields.isCount_ofDigits date time
  constructor
  · intro h
    have hrange := (DateFields.seconds_inRange_iff _).2 h.date_inRange
    refine ⟨⟨_, 0, hrange, by decide⟩, (assemble_utc_eq_ok_iff hdate htime).2
      ⟨h.toHasFields, hcount.toWall_eq_ok_iff.2 ⟨h.year_inRange, rfl, rfl⟩, rfl⟩, ?_, ?_, rfl⟩
    · rw [WallTime.date, WallTime.day, DateFields.seconds_div_eq,
        (DateFields.carriedDate_isValid _).ofDayNumber_dayNumber]
    · rw [WallTime.secondOfDay, DateFields.seconds_mod_eq]
      simp only [secondsPerDay]
      omega
  · intro h
    cases hresult : assemble zone .utc date time with
    | error e => exact ⟨e, rfl, rfl⟩
    | ok timestamp =>
      rcases (assemble_utc_eq_ok_iff hdate htime).1 hresult with ⟨hlengths, hwall, -⟩
      rcases hcount.toWall_eq_ok_iff.1 hwall with ⟨hyear, hseconds, -⟩
      have hrange := timestamp.wall.seconds_inRange
      rw [hseconds, DateFields.seconds_inRange_iff] at hrange
      exact absurd ⟨hlengths, hyear, hrange⟩ h

/-- The thirtieth of month 14, in digits of two scripts, and a time of day that ends with second 61:
a leap day and a midnight are passed. -/
theorem assemble_utc_digits_leap : ∃ wall,
    Text.AllDigits ['2', '0', '2', '3', '1', '4', '٣', '0'] ∧
    Text.AllDigits ['2', '3', '5', '9', '6', '1'] ∧
    assemble .utc .utc ['2', '0', '2', '3', '1', '4', '٣', '0'] ['2', '3', '5', '9', '6', '1'] =
      .ok ⟨wall, 0⟩ ∧
    wall.date = ⟨2024, 3, 2⟩ ∧ wall.secondOfDay = 1 := by
  have hdate : Text.AllDigits ['2', '0', '2', '3', '1', '4', '٣', '0'] := by simp; decide
  have htime : Text.AllDigits ['2', '3', '5', '9', '6', '1'] := by simp; decide
  have hdatable : Datable ['2', '0', '2', '3', '1', '4', '٣', '0'] ['2', '3', '5', '9', '6', '1'] :=
    ⟨⟨by decide, by decide, by decide, by decide⟩, by decide, by decide +kernel⟩
  obtain ⟨wall, hassembled, hwall, hsecond, -⟩ :=
    (assemble_utc_digits hdate htime .utc).1 hdatable
  refine ⟨wall, hdate, htime, hassembled, hwall.trans (by decide +kernel), ?_⟩
  have hone : (DateFields.ofDigits ['2', '0', '2', '3', '1', '4', '٣', '0']
      ['2', '3', '5', '9', '6', '1']).clockSeconds % secondsPerDay = 1 := by decide
  rw [hone] at hsecond
  omega

end VersionStamp
