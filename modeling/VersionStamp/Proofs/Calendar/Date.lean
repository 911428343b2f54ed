import Mathlib.Tactic.IntervalCases
import VersionStamp.Calendar.Date

/-! The calendar and its day numbers. The year of a day is the one whose first of January is the last
not after the day; month and day of the month are found inside that year, so the date of a day
number has that number again. -/

namespace VersionStamp.Calendar

/-- Years counted by whole cycles, centuries, groups of four and single years. -/
theorem daysBeforeYear_parts {q c g y : Int} (hc : 0 ≤ c ∧ c ≤ 3) (hg : 0 ≤ g ∧ g ≤ 24)
    (hy : 0 ≤ y ∧ y ≤ 3) :
    daysBeforeYear (400 * q + 100 * c + 4 * g + y + 1) =
      146097 * q + 36524 * c + 1461 * g + 365 * y := by
  unfold daysBeforeYear
  omega

theorem isLeapYear_iff {year : Int} :
    isLeapYear year = true ↔ year % 4 = 0 ∧ (year % 100 ≠ 0 ∨ year % 400 = 0) := by
  simp [isLeapYear]

theorem daysBeforeYear_succ (year : Int) :
    daysBeforeYear (year + 1) = daysBeforeYear year + if isLeapYear year then 366 else 365 := by
  unfold daysBeforeYear
  split
  · rename_i h
    rw [isLeapYear_iff] at h
    omega
  · rename_i h
    rw [isLeapYear_iff] at h
    omega

theorem daysBeforeYear_mono {a b : Int} (h : a ≤ b) : daysBeforeYear a ≤ daysBeforeYear b := by
  unfold daysBeforeYear
  omega

/-- The last year of a group has the leap day, unless it ends a century that ends no cycle. -/
theorem isLeapYear_parts {q c g y : Int} (hc : 0 ≤ c ∧ c ≤ 3) (hg : 0 ≤ g ∧ g ≤ 24)
    (hy : 0 ≤ y ∧ y ≤ 3) :
    isLeapYear (400 * q + 100 * c + 4 * g + y + 1) = true ↔ y = 3 ∧ (g < 24 ∨ c = 3) := by
  rw [isLeapYear_iff]
  omega

theorem yearOfDay_spec (n : Int) :
    daysBeforeYear (yearOfDay n) ≤ n ∧ n < daysBeforeYear (yearOfDay n + 1) := by
  obtain ⟨q, hq⟩ : ∃ q, q = n / 146097 := ⟨_, rfl⟩
  obtain ⟨r, hr⟩ : ∃ r, r = n % 146097 := ⟨_, rfl⟩
  obtain ⟨c, hc⟩ : ∃ c, c = min (r / 36524) 3 := ⟨_, rfl⟩
  obtain ⟨s, hs⟩ : ∃ s, s = r - 36524 * c := ⟨_, rfl⟩
  obtain ⟨g, hg⟩ : ∃ g, g = s / 1461 := ⟨_, rfl⟩
  obtain ⟨d, hd⟩ : ∃ d, d = s % 1461 := ⟨_, rfl⟩
  obtain ⟨y, hy⟩ : ∃ y, y = min (d / 365) 3 := ⟨_, rfl⟩
  have hyear : yearOfDay n = 400 * q + 100 * c + 4 * g + y + 1 := by
    simp only [yearOfDay, ← hq, ← hr, ← hc, ← hs, ← hg, ← hd, ← hy]
  have hn : n = 146097 * q + r ∧ 0 ≤ r ∧ r < 146097 := by omega
  have hc' : 0 ≤ c ∧ c ≤ 3 ∧ 0 ≤ s ∧ s ≤ 36524 ∧ (c < 3 → s < 36524) := by omega
  have hg' : 0 ≤ g ∧ g ≤ 24 ∧ s = 1461 * g + d ∧ 0 ≤ d ∧ d < 1461 := by omega
  have hy' : 0 ≤ y ∧ y ≤ 3 ∧ 365 * y ≤ d ∧ (y < 3 → d < 365 * y + 365) := by omega
  have hcRange : 0 ≤ c ∧ c ≤ 3 := ⟨hc'.1, hc'.2.1⟩
  have hgRange : 0 ≤ g ∧ g ≤ 24 := ⟨hg'.1, hg'.2.1⟩
  have hyRange : 0 ≤ y ∧ y ≤ 3 := ⟨hy'.1, hy'.2.1⟩
  rw [daysBeforeYear_succ, hyear, daysBeforeYear_parts hcRange hgRange hyRange]
  clear hq hr hc hg hd hy hyear
  refine ⟨by omega, ?_⟩
  split
  · omega
  · rename_i hleap
    rw [isLeapYear_parts hcRange hgRange hyRange] at hleap
    omega

theorem yearDay_lt (n : Int) :
    (n - daysBeforeYear (yearOfDay n)).toNat < if isLeapYear (yearOfDay n) then 366 else 365 := by
  have hspec := yearOfDay_spec n
  rw [daysBeforeYear_succ] at hspec
  split at hspec
  · rename_i h
    rw [if_pos h]
    omega
  · rename_i h
    rw [if_neg h]
    omega

theorem monthOfYearDay_spec : ∀ (leap : Bool), ∀ d < if leap then 366 else 365,
    1 ≤ monthOfYearDay leap d ∧ monthOfYearDay leap d ≤ 12 ∧
      daysBeforeMonth leap (monthOfYearDay leap d) ≤ d ∧
      d < daysBeforeMonth leap (monthOfYearDay leap d + 1) := by
  decide +kernel

namespace Date

theorem dayNumber_ofDayNumber (n : Int) : (ofDayNumber n).dayNumber = n := by
  rcases monthOfYearDay_spec _ _ (yearDay_lt n) with ⟨-, -, hmonth, -⟩
  have hfirst := (yearOfDay_spec n).1
  simp only [dayNumber, ofDayNumber]
  omega

theorem isValid_ofDayNumber (n : Int) : (ofDayNumber n).IsValid := by
  rcases monthOfYearDay_spec _ _ (yearDay_lt n) with ⟨hlower, hupper, hmonth, hnext⟩
  refine ⟨hlower, hupper, Nat.le_add_left .., ?_⟩
  simp only [ofDayNumber, daysInMonth] at hmonth hnext ⊢
  omega

theorem daysInMonth_le : ∀ (leap : Bool), ∀ month < 13, daysInMonth leap month ≤ 31 := by
  decide

theorem IsValid.day_le {d : Date} (h : d.IsValid) : d.day ≤ 31 :=
  h.2.2.2.trans (daysInMonth_le _ _ (by have := h.2.1; omega))

end Date

end VersionStamp.Calendar
