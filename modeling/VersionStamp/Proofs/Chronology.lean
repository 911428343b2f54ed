import Mathlib.Data.Char
import Mathlib.Order.Compare
import VersionStamp.Proofs.Calendar.LocalTime
import VersionStamp.Proofs.Render

/-! Dates and times of day in the order of time. Every field of a date or a time of day has a fixed
width, and the fields go from the longest unit to the shortest. So the texts are ordered as the times
are: the first field that differs decides on both sides. -/

namespace VersionStamp

open Calendar

/-! ### The leading part decides -/

section

variable {α β : Type*} [LinearOrder α] [LinearOrder β] {a b : α} {x y : β}

/-- A leading part decides, and where it is the same on both sides the rest does. -/
theorem compare_eq_then {rest : Ordering} (hlt : a < b → x < y) (hgt : b < a → y < x)
    (heq : a = b → compare x y = rest) : compare x y = (compare a b).then rest := by
  rcases lt_trichotomy a b with h | h | h
  · rw [compare_lt_iff_lt.2 h, compare_lt_iff_lt.2 (hlt h), Ordering.lt_then]
  · rw [compare_eq_iff_eq.2 h, heq h, Ordering.eq_then]
  · rw [compare_gt_iff_gt.2 h, compare_gt_iff_gt.2 (hgt h), Ordering.gt_then]

theorem compare_eq_compare (hlt : a < b → x < y) (hgt : b < a → y < x) (heq : a = b → x = y) :
    compare x y = compare a b := by
  rw [compare_eq_then hlt hgt fun h => compare_eq_iff_eq.2 (heq h), Ordering.then_eq]

end

theorem compare_mul_add {n a b p q : Nat} (hp : p < n) (hq : q < n) :
    compare (a * n + p) (b * n + q) = (compare a b).then (compare p q) := by
  have hstep : ∀ {a b p q : Nat}, p < n → a < b → a * n + p < b * n + q := by
    intro a b p q hp h
    have hle : (a + 1) * n ≤ b * n := Nat.mul_le_mul_right n h
    rw [Nat.succ_mul] at hle
    omega
  apply compare_eq_then
  · exact hstep hp
  · exact hstep hq
  · rintro rfl
    apply compare_eq_compare <;> omega

/-! ### Order of texts -/

namespace Text

theorem compare_append {a b : List Char} (x y : List Char) (h : a.length = b.length) :
    compare (a ++ x) (b ++ y) = (compare a b).then (compare x y) := by
  induction a generalizing b with
  | nil =>
    obtain rfl : b = [] := List.length_eq_zero_iff.1 h.symm
    rfl
  | cons c a ih =>
    cases b with
    | nil => cases h
    | cons d b =>
      simp only [List.cons_append, List.compare_cons_cons, ih (Nat.succ.inj h),
        Ordering.then_assoc]

theorem toNat_eq_of_isDigit {c : Char} (h : c.isDigit = true) : c.toNat = 48 + digitValue c := by
  rw [← Nat.toNat_digitChar_of_lt_ten (digitValue_lt_ten c), digitChar_digitValue h]

theorem compare_digit {c d : Char} (hc : c.isDigit = true) (hd : d.isDigit = true) :
    compare c d = compare (digitValue c) (digitValue d) := by
  have hcode := toNat_eq_of_isDigit hc
  have hcode' := toNat_eq_of_isDigit hd
  apply compare_eq_compare
  · intro h
    change c.toNat < d.toNat
    omega
  · intro h
    change d.toNat < c.toNat
    omega
  · intro h
    rw [← Char.toNat_inj]
    omega

theorem digitsValue_cons (c : Char) (digits : List Char) :
    digitsValue (c :: digits) = digitValue c * 10 ^ digits.length + digitsValue digits := by
  rw [← List.singleton_append, digitsValue_append]
  simp [digitsValue]

theorem compare_digits {a b : List Char} (ha : ∀ c ∈ a, c.isDigit = true)
    (hb : ∀ c ∈ b, c.isDigit = true) (h : a.length = b.length) :
    compare a b = compare (digitsValue a) (digitsValue b) := by
  induction a generalizing b with
  | nil =>
    obtain rfl : b = [] := List.length_eq_zero_iff.1 h.symm
    rfl
  | cons c a ih =>
    cases b with
    | nil => cases h
    | cons d b =>
      rw [List.forall_mem_cons] at ha hb
      have hlength : a.length = b.length := Nat.succ.inj h
      have hlt : digitsValue a < 10 ^ a.length := digitsValue_lt a
      have hlt' : digitsValue b < 10 ^ a.length := hlength ▸ digitsValue_lt b
      rw [List.compare_cons_cons, compare_digit ha.1 hb.1, ih ha.2 hb.2 hlength,
        digitsValue_cons, digitsValue_cons, ← hlength, compare_mul_add hlt hlt']

theorem compare_padded {width m n : Nat} (h : (padded width m).length = (padded width n).length) :
    compare (padded width m) (padded width n) = compare m n := by
  rw [compare_digits (fun _ => isDigit_of_mem_padded) (fun _ => isDigit_of_mem_padded) h,
    digitsValue_padded, digitsValue_padded]

end Text

/-! ### Order of times -/

namespace Calendar

namespace Date

variable {a b : Date}

theorem IsValid.dayNumber_lt_of_year_lt (ha : a.IsValid) (hb : b.IsValid) (h : a.year < b.year) :
    a.dayNumber < b.dayNumber := by
  have hyears : daysBeforeYear (a.year + 1) ≤ daysBeforeYear b.year := daysBeforeYear_mono h
  have hupper := ha.dayNumber_between.2
  have hlower := hb.dayNumber_between.1
  omega

theorem IsValid.dayNumber_lt_of_month_lt (ha : a.IsValid) (hb : b.IsValid) (hyear : a.year = b.year)
    (h : a.month < b.month) : a.dayNumber < b.dayNumber := by
  rcases ha with ⟨-, hlast, -, hlength⟩
  rcases hb with ⟨-, hlast', hday', -⟩
  have hmonth := daysBeforeMonth_succ (isLeapYear a.year) a.month (by omega)
  have hmonths := daysBeforeMonth_mono (isLeapYear a.year) b.month (by omega) (a.month + 1) h
  simp only [dayNumber, ← hyear]
  omega

theorem IsValid.compare_dayNumber (ha : a.IsValid) (hb : b.IsValid) :
    compare a.dayNumber b.dayNumber =
      (compare a.year b.year).then ((compare a.month b.month).then (compare a.day b.day)) := by
  refine compare_eq_then (ha.dayNumber_lt_of_year_lt hb) (hb.dayNumber_lt_of_year_lt ha)
    fun hyear => ?_
  refine compare_eq_then (ha.dayNumber_lt_of_month_lt hb hyear)
    (hb.dayNumber_lt_of_month_lt ha hyear.symm) fun hmonth => ?_
  have hday := ha.2.2.1
  have hday' := hb.2.2.1
  simp only [dayNumber, hyear, hmonth]
  apply compare_eq_compare <;> omega

end Date

namespace WallTime

variable (v w : WallTime)

theorem compare_seconds : compare v.seconds w.seconds =
    (compare v.day w.day).then (compare v.secondOfDay w.secondOfDay) := by
  have hv := v.secondOfDay_lt
  have hw := w.secondOfDay_lt
  rw [v.seconds_eq, w.seconds_eq, secondsPerDay]
  refine compare_eq_then (by omega) (by omega) fun h => ?_
  apply compare_eq_compare <;> omega

theorem compare_secondOfDay : compare v.secondOfDay w.secondOfDay =
    (compare v.hour w.hour).then ((compare v.minute w.minute).then (compare v.second w.second)) := by
  have hminute := v.minute_lt
  have hminute' := w.minute_lt
  have hsecond := v.second_lt
  have hsecond' := w.second_lt
  rw [v.secondOfDay_eq, w.secondOfDay_eq, add_assoc, add_assoc, compare_mul_add (by omega) (by omega),
    compare_mul_add hsecond hsecond']

theorem compare_dateDigits : compare v.dateDigits w.dateDigits = compare v.day w.day := by
  have hv := v.year_inRange
  have hw := w.year_inRange
  have hyear : compare v.date.year.toNat w.date.year.toNat = compare v.date.year w.date.year := by
    apply compare_eq_compare <;> omega
  have hyears := v.year_length.trans w.year_length.symm
  have hmonths := v.month_length.trans w.month_length.symm
  have hdays := v.day_length.trans w.day_length.symm
  rw [dateDigits, dateDigits, List.append_assoc, List.append_assoc, Text.compare_append _ _ hyears,
    Text.compare_append _ _ hmonths, Text.compare_padded hyears, Text.compare_padded hmonths,
    Text.compare_padded hdays, hyear, ← v.date_isValid.compare_dayNumber w.date_isValid,
    dayNumber_date, dayNumber_date]

theorem compare_timeDigits :
    compare v.timeDigits w.timeDigits = compare v.secondOfDay w.secondOfDay := by
  have hhours := v.hour_length.trans w.hour_length.symm
  have hminutes := v.minute_length.trans w.minute_length.symm
  have hseconds := v.second_length.trans w.second_length.symm
  rw [timeDigits, timeDigits, List.append_assoc, List.append_assoc, Text.compare_append _ _ hhours,
    Text.compare_append _ _ hminutes, Text.compare_padded hhours, Text.compare_padded hminutes,
    Text.compare_padded hseconds, ← compare_secondOfDay]

/-- The date and the time of day together are ordered as the clock goes. -/
theorem compare_dateDigits_append_timeDigits :
    compare (v.dateDigits ++ v.timeDigits) (w.dateDigits ++ w.timeDigits) =
      compare v.seconds w.seconds := by
  rw [Text.compare_append _ _ (v.dateDigits_length.trans w.dateDigits_length.symm),
    compare_dateDigits, compare_timeDigits, compare_seconds]

theorem digits_spec : (w.dateDigits ++ w.timeDigits).length = 14 ∧
    ∀ c ∈ w.dateDigits ++ w.timeDigits, c.isDigit = true := by
  constructor
  · rw [List.length_append, w.dateDigits_length, w.timeDigits_length]
  · exact List.forall_mem_append.2 ⟨w.isDigit_dateDigits, w.isDigit_timeDigits⟩

variable {v w} in
theorem digits_congr (h : v.seconds = w.seconds) :
    v.dateDigits ++ v.timeDigits = w.dateDigits ++ w.timeDigits := by
  simp only [dateDigits, timeDigits, date, day, hour, minute, second, secondOfDay, h]

end WallTime

end Calendar

/-! ### Order of rendered times -/

section

variable {s : State} {utc : Timestamp}

/-- The date and the time of day of a state in UTC are those of its instant. -/
theorem render_date_time_utc (hmode : s.mode = .utc) (hutc : s.timestamp.toUtc = .ok utc)
    (zone : Zone) : (Piece.field .date).render zone s = .ok utc.wall.dateDigits ∧
      (Piece.field .time).render zone s = .ok utc.wall.timeDigits := by
  have hshown : s.shownTimestamp zone = .ok utc := by
    rw [State.shownTimestamp, hmode]
    exact hutc
  constructor
  · exact Piece.render_of_showable fun f hf => by cases hf; exact ⟨utc, hshown, rfl⟩
  · exact Piece.render_of_showable fun f hf => by cases hf; exact ⟨utc, hshown, rfl⟩

end

/-- In UTC a date and a time of day, one after the other, are fourteen ASCII digits. They are ordered as
text just as the instants are in whole seconds. So an instant has one text, whatever the fraction of
its second, the offset with which it is stored and the local time zone. -/
theorem utc_text_chronological {a b : State} {ua ub : Timestamp} (ha : a.mode = .utc)
    (hb : b.mode = .utc) (hua : a.timestamp.toUtc = .ok ua) (hub : b.timestamp.toUtc = .ok ub)
    (za zb : Zone) : ∃ dateA timeA dateB timeB,
      (Piece.field .date).render za a = .ok dateA ∧ (Piece.field .time).render za a = .ok timeA ∧
      (Piece.field .date).render zb b = .ok dateB ∧ (Piece.field .time).render zb b = .ok timeB ∧
      (∀ text ∈ [dateA ++ timeA, dateB ++ timeB],
        text.length = 14 ∧ ∀ c ∈ text, c.isDigit = true) ∧
      compare (dateA ++ timeA) (dateB ++ timeB) =
        compare (a.timestamp.microInstant / 1000000) (b.timestamp.microInstant / 1000000) ∧
      (a.timestamp.microInstant / 1000000 = b.timestamp.microInstant / 1000000 →
        dateA ++ timeA = dateB ++ timeB) := by
  rcases render_date_time_utc ha hua za with ⟨hdateA, htimeA⟩
  rcases render_date_time_utc hb hub zb with ⟨hdateB, htimeB⟩
  rcases Timestamp.toUtc_eq_ok hua with ⟨-, -, hsecondsA⟩
  rcases Timestamp.toUtc_eq_ok hub with ⟨-, -, hsecondsB⟩
  refine ⟨_, _, _, _, hdateA, htimeA, hdateB, htimeB, ?_, ?_, ?_⟩
  · rintro text htext
    rw [List.mem_pair] at htext
    rcases htext with rfl | rfl
    · exact ua.wall.digits_spec
    · exact ub.wall.digits_spec
  · rw [WallTime.compare_dateDigits_append_timeDigits, hsecondsA, hsecondsB]
    rfl
  · intro h
    apply WallTime.digits_congr
    rw [hsecondsA, hsecondsB]
    exact h

/-- The last second of the year 999 and the first of the year 1000, on clocks nineteen hours apart. -/
theorem utc_text_chronological_millennium : ∃ a b : State, ∃ dateA timeA dateB timeB,
    a = .fresh ⟨⟨31525354799, 999999, by decide, by decide⟩, -18000000000⟩ .utc ∧
    b = .fresh ⟨⟨31525423200, 0, by decide, by decide⟩, 50400000000⟩ .utc ∧
    (Piece.field .date).render .utc a = .ok dateA ∧ (Piece.field .time).render .utc a = .ok timeA ∧
    (Piece.field .date).render .utc b = .ok dateB ∧ (Piece.field .time).render .utc b = .ok timeB ∧
    dateA = ['0', '9', '9', '9', '1', '2', '3', '1'] ∧ timeA = ['2', '3', '5', '9', '5', '9'] ∧
    dateB = ['1', '0', '0', '0', '0', '1', '0', '1'] ∧ timeB = ['0', '0', '0', '0', '0', '0'] ∧
    compare (dateA ++ timeA) (dateB ++ timeB) = .lt := by
  obtain ⟨a, b, ha, hb, hmodeA, hmodeB, hua, hub, hcompare⟩ : ∃ a b : State,
      a = .fresh ⟨⟨31525354799, 999999, by decide, by decide⟩, -18000000000⟩ .utc ∧
      b = .fresh ⟨⟨31525423200, 0, by decide, by decide⟩, 50400000000⟩ .utc ∧
      a.mode = .utc ∧ b.mode = .utc ∧
      a.timestamp.toUtc = .ok ⟨⟨31525372799, 999999, by decide, by decide⟩, 0⟩ ∧
      b.timestamp.toUtc = .ok ⟨⟨31525372800, 0, by decide, by decide⟩, 0⟩ ∧
      compare (a.timestamp.microInstant / 1000000) (b.timestamp.microInstant / 1000000) = .lt :=
    ⟨_, _, rfl, rfl, rfl, rfl, Timestamp.atOffset_eq_ok_iff.2 ⟨by decide, rfl⟩,
      Timestamp.atOffset_eq_ok_iff.2 ⟨by decide, rfl⟩, by decide⟩
  obtain ⟨dateA, timeA, dateB, timeB, hdateA, htimeA, hdateB, htimeB, -, horder, -⟩ :=
    utc_text_chronological hmodeA hmodeB hua hub .utc .utc
  rcases render_date_time_utc hmodeA hua .utc with ⟨hwordA, hwordA'⟩
  rcases render_date_time_utc hmodeB hub .utc with ⟨hwordB, hwordB'⟩
  exact ⟨a, b, dateA, timeA, dateB, timeB, ha, hb, hdateA, htimeA, hdateB, htimeB,
    (Except.ok.inj (hdateA.symm.trans hwordA)).trans (by decide),
    (Except.ok.inj (htimeA.symm.trans hwordA')).trans (by decide),
    (Except.ok.inj (hdateB.symm.trans hwordB)).trans (by decide),
    (Except.ok.inj (htimeB.symm.trans hwordB')).trans (by decide), horder.trans hcompare⟩

end VersionStamp
