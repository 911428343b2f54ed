import VersionStamp.Assemble
import VersionStamp.Proofs.Calendar.LocalTime

/-! Reading back the digits of a wall-clock time. The digits of a date and of a time of day give the
fields of the wall-clock time again, and the fields give the whole second that it shows; without a
time of day they give midnight. -/

namespace VersionStamp

open Calendar

theorem readField_of_allDigits {digits : List Char} (h : Text.AllDigits digits) (hne : digits ≠ [])
    (hlen : digits.length ≤ Text.digitLimit) :
    readField digits = .ok (Text.digitsValue digits : Int) := by
  rw [readField, Text.readInt_of_allDigits h hne, Text.readDigits, if_pos hlen]
  rfl

theorem readField_padded {width n : Nat} (hlen : (Text.padded width n).length = width)
    (hwidth : 0 < width) (hlimit : width ≤ Text.digitLimit) :
    readField (Text.padded width n) = .ok (n : Int) := by
  rw [readField_of_allDigits (Text.allDigits_padded width n), Text.digitsValue_padded]
  · rintro h
    rw [h] at hlen
    simp at hlen
    omega
  · omega

namespace DateFields

/-- The numbers that a wall-clock time shows. -/
def ofWall (w : WallTime) : DateFields where
  year := w.date.year
  month := w.date.month
  day := w.date.day
  hour := w.hour
  minute := w.minute
  second := w.second

theorem ofWall_midnight (w : WallTime) : ofWall w.midnight =
    { year := w.date.year, month := w.date.month, day := w.date.day } := by
  simp [ofWall, WallTime.hour, WallTime.minute, WallTime.second]

variable (w : WallTime)

theorem ofWall_carriedYear : (ofWall w).carriedYear = w.date.year := by
  have := w.date_isValid.1
  have := w.date_isValid.2.1
  simp only [carriedYear, ofWall]
  omega

theorem ofWall_carriedMonth : (ofWall w).carriedMonth = w.date.month := by
  have := w.date_isValid.1
  have := w.date_isValid.2.1
  simp only [carriedMonth, ofWall]
  omega

theorem ofWall_duration :
    (ofWall w).duration = ((w.date.day : Int) - 1) * secondsPerDay + (w.secondOfDay : Int) := by
  rw [w.secondOfDay_eq]
  simp only [duration, ofWall]
  push_cast
  ring

theorem ofWall_seconds : (ofWall w).seconds = w.seconds := by
  have hday : Date.dayNumber ⟨w.date.year, w.date.month, 1⟩ + ((w.date.day : Int) - 1) = w.day := by
    rw [← w.dayNumber_date]
    simp only [Date.dayNumber]
    omega
  rw [seconds, ofWall_carriedYear, ofWall_carriedMonth, ofWall_duration, w.seconds_eq, ← hday]
  ring

theorem ofWall_checkDuration : (ofWall w).checkDuration = .ok () := by
  have hlower := w.date_isValid.2.2.1
  have hupper := w.date_isValid.day_le
  have hsecond := w.secondOfDay_lt
  have hdays : (ofWall w).duration / secondsPerDay = (w.date.day : Int) - 1 := by
    rw [ofWall_duration]
    simp only [secondsPerDay]
    omega
  simp only [checkDuration, hdays]
  rw [if_neg (by omega), if_neg (by omega)]

theorem toWall_ofWall : (ofWall w).toWall = .ok w.truncate := by
  have hyear := w.year_inRange
  rw [toWall, ofWall_carriedYear, if_neg (by omega), ofWall_checkDuration, ofWall_seconds]
  change WallTime.ofSeconds w.seconds = _
  rw [WallTime.ofSeconds, dif_pos w.seconds_inRange]
  rfl

theorem toWall_eq_ok {f : DateFields} {wall : WallTime} (h : f.toWall = .ok wall) :
    wall.seconds = f.seconds ∧ wall.micros = 0 := by
  rw [toWall] at h
  split at h
  · cases h
  · rcases bind_eq_ok.1 h with ⟨_, -, h⟩
    unfold WallTime.ofSeconds at h
    split at h
    · cases h
      exact ⟨rfl, rfl⟩
    · cases h

/-- Fields without a time of day are those of a midnight. -/
theorem secondOfDay_of_toWall {year month day : Int} {wall : WallTime}
    (h : DateFields.toWall { year, month, day } = .ok wall) : wall.secondOfDay = 0 := by
  rw [WallTime.secondOfDay, (toWall_eq_ok h).1, seconds, duration]
  simp only [secondsPerDay]
  omega

end DateFields

/-- Fields are read one after the other, those of the time of day only if there is one. -/
theorem readDateFields_eq_ok_iff {date time : List Char} {f : DateFields} :
    readDateFields date time = .ok f ↔ 7 ≤ date.length ∧
      readField (date.take 4) = .ok f.year ∧
      readField ((date.drop 4).take 2) = .ok f.month ∧
      readField (date.drop 6) = .ok f.day ∧
      (time = [] ∧ f.hour = 0 ∧ f.minute = 0 ∧ f.second = 0 ∨
        5 ≤ time.length ∧ readField (time.take 2) = .ok f.hour ∧
          readField ((time.drop 2).take 2) = .ok f.minute ∧
          readField (time.drop 4) = .ok f.second) := by
  constructor
  · intro h
    rw [readDateFields] at h
    split at h
    · cases h
    · rename_i hlength
      rw [not_lt] at hlength
      rcases bind_eq_ok.1 h with ⟨year, hyear, h⟩
      rcases bind_eq_ok.1 h with ⟨month, hmonth, h⟩
      rcases bind_eq_ok.1 h with ⟨day, hday, h⟩
      split at h
      · rename_i hempty
        cases h
        exact ⟨hlength, hyear, hmonth, hday, .inl ⟨List.isEmpty_iff.1 hempty, rfl, rfl, rfl⟩⟩
      · simp only at h
        split at h
        · cases h
        · rename_i htime
          rcases bind_eq_ok.1 h with ⟨hour, hhour, h⟩
          rcases bind_eq_ok.1 h with ⟨minute, hminute, h⟩
          rcases bind_eq_ok.1 h with ⟨second, hsecond, h⟩
          cases h
          exact ⟨hlength, hyear, hmonth, hday, .inr ⟨not_lt.1 htime, hhour, hminute, hsecond⟩⟩
  · rintro ⟨hlength, hyear, hmonth, hday, ⟨rfl, hhour, hminute, hsecond⟩ |
      ⟨htime, hhour, hminute, hsecond⟩⟩
    · rw [readDateFields, if_neg (by omega), hyear, hmonth, hday]
      rcases f with ⟨_, _, _, _, _, _⟩
      obtain rfl := hhour
      obtain rfl := hminute
      obtain rfl := hsecond
      rfl
    · have hnonempty : time.isEmpty = false :=
        List.isEmpty_eq_false_iff.2 (List.ne_nil_of_length_pos (by omega))
      rw [readDateFields, if_neg (by omega), hyear, hmonth, hday, hnonempty, hhour, hminute,
        hsecond]
      simp only [bind, Except.bind, Bool.false_eq_true, if_false]
      rw [if_neg (by omega)]
      rfl

theorem readDateFields_nil {date : List Char} {fields : DateFields}
    (h : readDateFields date [] = .ok fields) :
    ∃ year month day, fields = { year, month, day } := by
  rcases fields with ⟨year, month, day, _, _, _⟩
  rcases readDateFields_eq_ok_iff.1 h with
    ⟨-, -, -, -, ⟨-, rfl, rfl, rfl⟩ | ⟨hlength, -⟩⟩
  · exact ⟨year, month, day, rfl⟩
  · exact absurd hlength (by decide)

section Digits

variable (w : WallTime)

theorem readField_date :
    readField (w.dateDigits.take 4) = .ok w.date.year ∧
    readField ((w.dateDigits.drop 4).take 2) = .ok (w.date.month : Int) ∧
    readField (w.dateDigits.drop 6) = .ok (w.date.day : Int) := by
  obtain ⟨hyear, hmonth, hday⟩ := w.dateDigits_divide
  have hnonneg : ((w.date.year.toNat : Nat) : Int) = w.date.year := by
    have := w.year_inRange
    omega
  rw [hyear, hmonth, hday,
    readField_padded w.year_length (by decide) (by decide),
    readField_padded w.month_length (by decide) (by decide),
    readField_padded w.day_length (by decide) (by decide), hnonneg]
  exact ⟨rfl, rfl, rfl⟩

theorem readField_time :
    readField (w.timeDigits.take 2) = .ok (w.hour : Int) ∧
    readField ((w.timeDigits.drop 2).take 2) = .ok (w.minute : Int) ∧
    readField (w.timeDigits.drop 4) = .ok (w.second : Int) := by
  obtain ⟨hhour, hminute, hsecond⟩ := w.timeDigits_divide
  rw [hhour, hminute, hsecond,
    readField_padded w.hour_length (by decide) (by decide),
    readField_padded w.minute_length (by decide) (by decide),
    readField_padded w.second_length (by decide) (by decide)]
  exact ⟨rfl, rfl, rfl⟩

theorem readDateFields_dateDigits :
    readDateFields w.dateDigits [] = .ok (DateFields.ofWall w.midnight) := by
  rcases readField_date w with ⟨hyear, hmonth, hday⟩
  rw [DateFields.ofWall_midnight]
  refine readDateFields_eq_ok_iff.2 ⟨?_, hyear, hmonth, hday, .inl ⟨rfl, rfl, rfl, rfl⟩⟩
  rw [w.dateDigits_length]
  decide

theorem readDateFields_digits :
    readDateFields w.dateDigits w.timeDigits = .ok (DateFields.ofWall w) := by
  rcases readField_date w with ⟨hyear, hmonth, hday⟩
  refine readDateFields_eq_ok_iff.2 ⟨?_, hyear, hmonth, hday, .inr ⟨?_, readField_time w⟩⟩
  · rw [w.dateDigits_length]
    decide
  · rw [w.timeDigits_length]
    decide

/-- Once the digits name a wall-clock time, only its clock can refuse it. -/
theorem assemble_of_fields {date time : List Char} {fields : DateFields} {wall : WallTime}
    (hfields : readDateFields date time = .ok fields) (hwall : fields.toWall = .ok wall)
    (zone : Zone) (mode : ZoneMode) :
    assemble zone mode date time =
      (mode.interpret zone wall).mapError fun e => ⟨date, time, .calendar e⟩ := by
  simp only [assemble, hfields, bind, Except.bind, hwall, Except.mapError]
  cases mode.interpret zone wall <;> rfl

theorem assemble_digits (zone : Zone) (mode : ZoneMode) :
    assemble zone mode w.dateDigits w.timeDigits =
      (mode.interpret zone w.truncate).mapError
        fun e => ⟨w.dateDigits, w.timeDigits, .calendar e⟩ :=
  assemble_of_fields (readDateFields_digits w) (DateFields.toWall_ofWall w) zone mode

theorem assemble_dateDigits (zone : Zone) (mode : ZoneMode) :
    assemble zone mode w.dateDigits [] =
      (mode.interpret zone w.midnight).mapError fun e => ⟨w.dateDigits, [], .calendar e⟩ :=
  assemble_of_fields (readDateFields_dateDigits w) (DateFields.toWall_ofWall w.midnight) zone mode

end Digits

/-- Whatever digits make a timestamp, it is a whole second on the clock of the mode. -/
theorem offset_of_assemble {zone : Zone} {mode : ZoneMode} {date time : List Char}
    {timestamp : Timestamp} (h : assemble zone mode date time = .ok timestamp) :
    timestamp.offset = mode.offsetAt zone timestamp.instant * 1000000 ∧
      timestamp.wall.micros = 0 := by
  rcases bind_eq_ok.1 (mapError_eq_ok.1 h) with ⟨fields, -, h⟩
  rcases bind_eq_ok.1 h with ⟨wall, hwall, hread⟩
  rcases ZoneMode.offset_of_interpret (mapError_eq_ok.1 hread) with ⟨hoffset, hmicros⟩
  exact ⟨hoffset, hmicros.trans (DateFields.toWall_eq_ok (mapError_eq_ok.1 hwall)).2⟩

/-- A date without a time of day is read as its midnight, in UTC. -/
theorem secondOfDay_of_assemble {zone : Zone} {date : List Char} {timestamp : Timestamp}
    (h : assemble zone .utc date [] = .ok timestamp) : timestamp.wall.secondOfDay = 0 := by
  rcases bind_eq_ok.1 (mapError_eq_ok.1 h) with ⟨fields, hfields, h⟩
  rcases bind_eq_ok.1 h with ⟨wall, hwall, hread⟩
  rcases readDateFields_nil hfields with ⟨year, month, day, rfl⟩
  have hsame : (⟨wall, 0⟩ : Timestamp) = timestamp := Except.ok.inj (mapError_eq_ok.1 hread)
  rw [← hsame]
  exact DateFields.secondOfDay_of_toWall (mapError_eq_ok.1 hwall)

end VersionStamp
