import VersionStamp.Calendar.Timestamp
import VersionStamp.Proofs.Calendar.Counting
import VersionStamp.Proofs.Text.Numeral

/-! Wall-clock times and their digits. Date and time of day of a wall-clock time stay within the widths
that they are written in, so a date always takes eight digits and a time of day six. -/

namespace VersionStamp.Calendar.WallTime

variable (w : WallTime)

theorem day_inRange : 0 ≤ w.day ∧ w.day < 3652059 := by
  have h := w.seconds_inRange
  simp only [day, endOfTime, secondsPerDay] at h ⊢
  omega

theorem secondOfDay_lt : w.secondOfDay < 86400 := by
  simp only [secondOfDay, secondsPerDay]
  omega

theorem seconds_eq : w.seconds = w.day * secondsPerDay + (w.secondOfDay : Int) := by
  simp only [day, secondOfDay, secondsPerDay]
  omega

theorem date_isValid : w.date.IsValid := Date.isValid_ofDayNumber w.day

theorem dayNumber_date : w.date.dayNumber = w.day := Date.dayNumber_ofDayNumber w.day

theorem year_between_iff {a b : Int} :
    (a ≤ w.date.year ∧ w.date.year ≤ b) ↔
      daysBeforeYear a ≤ w.day ∧ w.day < daysBeforeYear (b + 1) := by
  rw [w.date_isValid.year_between_iff, dayNumber_date]

theorem year_inRange : 1 ≤ w.date.year ∧ w.date.year ≤ 9999 := by
  rw [year_between_iff]
  exact w.day_inRange

theorem hour_lt : w.hour < 24 := by
  have := w.secondOfDay_lt
  simp only [hour]
  omega

theorem minute_lt : w.minute < 60 := Nat.mod_lt _ (by decide)

theorem second_lt : w.second < 60 := Nat.mod_lt _ (by decide)

theorem secondOfDay_eq : w.secondOfDay = w.hour * 3600 + w.minute * 60 + w.second := by
  simp only [hour, minute, second]
  omega

/-! ### Microseconds -/

theorem microseconds_ediv : w.microseconds / 1000000 = w.seconds := by
  have := w.micros_lt
  simp only [microseconds]
  omega

theorem microseconds_emod : w.microseconds % 1000000 = w.micros := by
  have := w.micros_lt
  simp only [microseconds]
  omega

theorem eq_of_microseconds {v w : WallTime} (h : v.microseconds = w.microseconds) : v = w := by
  have hseconds : v.seconds = w.seconds := by rw [← microseconds_ediv, h, microseconds_ediv]
  have hmicros : (v.micros : Int) = w.micros := by rw [← microseconds_emod, h, microseconds_emod]
  rcases v with ⟨_, _, _, _⟩
  rw [WallTime.mk.injEq]
  exact ⟨hseconds, Int.ofNat.inj hmicros⟩

theorem ofMicroseconds_eq_ok_iff {total : Int} {w : WallTime} :
    ofMicroseconds total = .ok w ↔ w.microseconds = total := by
  constructor
  · intro h
    unfold ofMicroseconds at h
    split at h
    · cases h
      simp only [microseconds]
      omega
    · cases h
  · rintro rfl
    have hrange : 0 ≤ w.microseconds / 1000000 ∧ w.microseconds / 1000000 < endOfTime := by
      rw [microseconds_ediv]
      exact w.seconds_inRange
    rw [ofMicroseconds, dif_pos hrange, Except.ok.injEq]
    apply eq_of_microseconds
    simp only [microseconds]
    omega

/-! ### Digits -/

theorem year_length : (Text.padded 4 w.date.year.toNat).length = 4 :=
  Text.padded_length (by decide) (by have := w.year_inRange; omega)

theorem month_length : (Text.padded 2 w.date.month).length = 2 :=
  Text.padded_length (by decide) (by have := w.date_isValid.2.1; omega)

theorem day_length : (Text.padded 2 w.date.day).length = 2 :=
  Text.padded_length (by decide) (by have := w.date_isValid.day_le; omega)

theorem hour_length : (Text.padded 2 w.hour).length = 2 :=
  Text.padded_length (by decide) (by have := w.hour_lt; omega)

theorem minute_length : (Text.padded 2 w.minute).length = 2 :=
  Text.padded_length (by decide) (by have := w.minute_lt; omega)

theorem second_length : (Text.padded 2 w.second).length = 2 :=
  Text.padded_length (by decide) (by have := w.second_lt; omega)

theorem dateDigits_length : w.dateDigits.length = 8 := by
  simp [dateDigits, year_length, month_length, day_length]

theorem timeDigits_length : w.timeDigits.length = 6 := by
  simp [timeDigits, hour_length, minute_length, second_length]

/-- A text of three parts, the second two characters long, is divided at their borders. -/
theorem divide_triple {a b c : List Char} {n : Nat} (ha : a.length = n) (hb : b.length = 2) :
    (a ++ b ++ c).take n = a ∧ ((a ++ b ++ c).drop n).take 2 = b ∧ (a ++ b ++ c).drop (n + 2) = c := by
  refine ⟨?_, ?_, ?_⟩
  · rw [List.append_assoc, List.take_left' ha]
  · rw [List.append_assoc, List.drop_left' ha, List.take_left' hb]
  · exact List.drop_left' (by rw [List.length_append, ha, hb])

theorem dateDigits_divide : w.dateDigits.take 4 = Text.padded 4 w.date.year.toNat ∧
    (w.dateDigits.drop 4).take 2 = Text.padded 2 w.date.month ∧
    w.dateDigits.drop 6 = Text.padded 2 w.date.day :=
  divide_triple w.year_length w.month_length

theorem timeDigits_divide : w.timeDigits.take 2 = Text.padded 2 w.hour ∧
    (w.timeDigits.drop 2).take 2 = Text.padded 2 w.minute ∧
    w.timeDigits.drop 4 = Text.padded 2 w.second :=
  divide_triple w.hour_length w.minute_length

theorem dateDigits_ne_nil : w.dateDigits ≠ [] := by
  apply List.ne_nil_of_length_pos
  rw [dateDigits_length]
  decide

theorem timeDigits_ne_nil : w.timeDigits ≠ [] := by
  apply List.ne_nil_of_length_pos
  rw [timeDigits_length]
  decide

theorem allDigits_dateDigits : Text.AllDigits w.dateDigits := by
  simp [dateDigits, Text.allDigits_padded]

theorem allDigits_timeDigits : Text.AllDigits w.timeDigits := by
  simp [timeDigits, Text.allDigits_padded]

theorem isDigit_dateDigits : ∀ c ∈ w.dateDigits, c.isDigit = true := by
  intro c hc
  simp only [dateDigits, List.mem_append, or_assoc] at hc
  rcases hc with hc | hc | hc <;> exact Text.isDigit_of_mem_padded hc

theorem isDigit_timeDigits : ∀ c ∈ w.timeDigits, c.isDigit = true := by
  intro c hc
  simp only [timeDigits, List.mem_append, or_assoc] at hc
  rcases hc with hc | hc | hc <;> exact Text.isDigit_of_mem_padded hc

/-! ### Whole seconds and midnight -/

theorem truncate_eq_self (h : w.micros = 0) : w.truncate = w := by
  rw [truncate, WallTime.mk.injEq]
  exact ⟨rfl, h.symm⟩

theorem startOfDay_inRange : 0 ≤ w.day * secondsPerDay ∧ w.day * secondsPerDay < endOfTime := by
  have h := w.day_inRange
  simp only [endOfTime, secondsPerDay]
  omega

/-- The start of the day. -/
def midnight : WallTime :=
  { w.truncate with
    seconds := w.day * secondsPerDay
    seconds_inRange := w.startOfDay_inRange }

@[simp] theorem midnight_day : w.midnight.day = w.day := by
  simp only [midnight, day, secondsPerDay]
  omega

@[simp] theorem midnight_secondOfDay : w.midnight.secondOfDay = 0 := by
  simp only [midnight, secondOfDay, secondsPerDay]
  omega

@[simp] theorem midnight_date : w.midnight.date = w.date := by
  simp only [date, midnight_day]

theorem midnight_eq_self (h : w.micros = 0) (hsecond : w.secondOfDay = 0) : w.midnight = w := by
  have hseconds := w.seconds_eq
  rw [hsecond, Nat.cast_zero, add_zero] at hseconds
  rw [midnight, WallTime.mk.injEq]
  exact ⟨hseconds.symm, h.symm⟩

theorem timeOfDay_inRange (v : WallTime) : 0 ≤ w.day * secondsPerDay + (v.secondOfDay : Int) ∧
    w.day * secondsPerDay + (v.secondOfDay : Int) < endOfTime := by
  have hday := w.day_inRange
  have hsecond := v.secondOfDay_lt
  simp only [endOfTime, secondsPerDay]
  omega

/-- The whole second of the day of `w` at the time of day of `v`. -/
def atTimeOf (w v : WallTime) : WallTime :=
  { w.truncate with
    seconds := w.day * secondsPerDay + (v.secondOfDay : Int)
    seconds_inRange := w.timeOfDay_inRange v }

@[simp] theorem atTimeOf_day (v : WallTime) : (w.atTimeOf v).day = w.day := by
  have := v.secondOfDay_lt
  simp only [atTimeOf, day, secondsPerDay] at *
  omega

@[simp] theorem atTimeOf_secondOfDay (v : WallTime) :
    (w.atTimeOf v).secondOfDay = v.secondOfDay := by
  have := v.secondOfDay_lt
  simp only [atTimeOf, secondOfDay, secondsPerDay] at *
  omega

@[simp] theorem atTimeOf_dateDigits (v : WallTime) : (w.atTimeOf v).dateDigits = w.dateDigits := by
  simp only [dateDigits, date, atTimeOf_day]

@[simp] theorem atTimeOf_timeDigits (v : WallTime) : (w.atTimeOf v).timeDigits = v.timeDigits := by
  simp only [timeDigits, hour, minute, second, atTimeOf_secondOfDay]

end VersionStamp.Calendar.WallTime
