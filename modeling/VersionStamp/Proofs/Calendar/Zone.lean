import VersionStamp.Calendar.Zone
import VersionStamp.Proofs.Calendar.WallTime
import VersionStamp.Proofs.Outcome

/-! Clocks that answer. The search for the instant of a wall-clock time moves it by a few offsets and
a day, so away from the ends of the calendar it always finds one. -/

namespace VersionStamp.Calendar

theorem exists_atSeconds (w : WallTime) (seconds : Int) (h : 0 ≤ seconds ∧ seconds < endOfTime) :
    ∃ shown, w.atSeconds seconds = .ok shown ∧ shown.seconds = seconds := by
  rw [WallTime.atSeconds, dif_pos h]
  exact ⟨_, rfl, rfl⟩

namespace Timestamp

theorem atOffset_eq_ok_iff {t shown : Timestamp} {offset : Int} :
    t.atOffset offset = .ok shown ↔
      shown.microInstant = t.microInstant ∧ shown.offset = offset := by
  have hwall : shown.microInstant = t.microInstant ∧ shown.offset = offset ↔
      shown.wall.microseconds = t.microInstant + offset ∧ shown.offset = offset := by
    simp only [microInstant]
    omega
  rw [hwall, ← WallTime.ofMicroseconds_eq_ok_iff, atOffset, bind_eq_ok]
  constructor
  · rintro ⟨found, hfound, hsame⟩
    cases hsame
    exact ⟨hfound, rfl⟩
  · rintro ⟨hfound, rfl⟩
    exact ⟨shown.wall, hfound, rfl⟩

theorem instant_congr {a b : Timestamp} (h : a.microInstant = b.microInstant) :
    a.instant = b.instant :=
  congrArg (· / 1000000) h

/-- A clock that is whole seconds ahead can show every instant that it has a second for. -/
theorem exists_atOffset (t : Timestamp) (seconds : Int)
    (h : 0 ≤ t.instant + seconds ∧ t.instant + seconds < endOfTime) :
    ∃ shown, t.atOffset (seconds * 1000000) = .ok shown ∧ shown.instant = t.instant := by
  have hrange : 0 ≤ (t.microInstant + seconds * 1000000) / 1000000 ∧
      (t.microInstant + seconds * 1000000) / 1000000 < endOfTime := by
    rw [Int.add_mul_ediv_right _ _ (by decide)]
    exact h
  obtain ⟨shown, hshown⟩ : ∃ shown, t.atOffset (seconds * 1000000) = .ok shown := by
    rw [atOffset, WallTime.ofMicroseconds, dif_pos hrange]
    exact ⟨_, rfl⟩
  exact ⟨shown, hshown, instant_congr (atOffset_eq_ok_iff.1 hshown).1⟩

theorem wall_microseconds (t : Timestamp) : t.wall.microseconds = t.microInstant + t.offset := by
  rw [microInstant, Int.sub_add_cancel]

theorem wall_seconds {t : Timestamp} {seconds : Int} (h : t.offset = seconds * 1000000) :
    t.wall.seconds = t.instant + seconds := by
  rw [← WallTime.microseconds_ediv, wall_microseconds, h, Int.add_mul_ediv_right _ _ (by decide),
    instant]

theorem wall_micros {t : Timestamp} {seconds : Int} (h : t.offset = seconds * 1000000) :
    (t.wall.micros : Int) = t.microInstant % 1000000 := by
  rw [← WallTime.microseconds_emod, wall_microseconds, h, Int.add_mul_emod_self_right]

theorem toUtc_mk_zero (w : WallTime) : (⟨w, 0⟩ : Timestamp).toUtc = .ok ⟨w, 0⟩ :=
  atOffset_eq_ok_iff.2 ⟨rfl, rfl⟩

theorem instant_mk_zero (w : WallTime) : (⟨w, 0⟩ : Timestamp).instant = w.seconds := by
  rw [instant, microInstant, sub_zero, w.microseconds_ediv]

end Timestamp

/-- The years from 2 to 9998 keep four days away from the ends of the calendar. -/
theorem WallTime.inner_of_year (w : WallTime) (hyear : 2 ≤ w.date.year ∧ w.date.year ≤ 9998) :
    345600 ≤ w.seconds ∧ w.seconds + 345600 ≤ endOfTime := by
  rcases w.year_between_iff.1 hyear with ⟨hlower, hupper⟩
  have hfirst : daysBeforeYear 2 = 365 := by decide
  have hlast : daysBeforeYear (9998 + 1) = 3651694 := by decide
  have hseconds := w.seconds_eq
  have hsecond := w.secondOfDay_lt
  simp only [secondsPerDay, endOfTime] at hseconds ⊢
  omega

/-- At `instant` the clock of the zone shows `wall`. -/
def Zone.Shows (z : Zone) (instant wall : Int) : Prop := instant + z.offsetAt instant = wall

instance (z : Zone) (instant wall : Int) : Decidable (z.Shows instant wall) :=
  inferInstanceAs (Decidable (_ = _))

/-- An instant is shown in local time where UTC and the clock of the zone both have a second for it. -/
theorem Zone.exists_localize {z : Zone} {t : Timestamp} (hutc : 0 ≤ t.instant ∧ t.instant < endOfTime)
    (hwall : 0 ≤ t.instant + z.offsetAt t.instant ∧ t.instant + z.offsetAt t.instant < endOfTime) :
    ∃ shown, z.localize t = .ok shown := by
  rcases t.exists_atOffset 0 (by omega) with ⟨utc, htoUtc, hinstant⟩
  rw [← hinstant] at hwall
  rcases utc.exists_atOffset (z.offsetAt utc.instant) hwall with ⟨shown, hshown, -⟩
  rw [zero_mul] at htoUtc
  refine ⟨shown, ?_⟩
  rw [localize, Timestamp.toUtc, htoUtc]
  exact hshown

/-- What the search for the instant of a wall-clock time settles on, away from the ends of the
calendar: the reading with the offset of the day before, or with the other offset, if it shows the
time. -/
def Zone.settled (z : Zone) (wall : Int) : Int :=
  let first := wall - z.offsetAt wall
  if first + z.offsetAt first = wall then
    let second := wall - z.offsetAt (first - secondsPerDay)
    if second + z.offsetAt second = wall then second else first
  else
    let second := wall - z.offsetAt first
    if second + z.offsetAt second = wall then second else max first second

/-- The clocks of the zone are less than a day away from UTC, as an offset from UTC has to be. The
dates on which daylight time begins and ends may be any. -/
structure Zone.IsProper (z : Zone) : Prop where
  standard : -secondsPerDay < z.standard ∧ z.standard < secondsPerDay
  daylight : ∀ d ∈ z.daylight, -secondsPerDay < d.offset ∧ d.offset < secondsPerDay

namespace Zone.IsProper

variable {z : Zone} (hz : z.IsProper)

include hz

theorem offsetAt_between (instant : Int) :
    -86400 < z.offsetAt instant ∧ z.offsetAt instant < 86400 := by
  rw [offsetAt]
  cases hd : z.daylight with
  | none => exact hz.standard
  | some d =>
    change _ < ite _ _ _ ∧ ite _ _ _ < _
    split
    · exact hz.daylight d hd
    · exact hz.standard

theorem wallSeconds_eq {instant : Int} (hlower : 86400 ≤ instant)
    (hupper : instant + 86400 ≤ endOfTime) :
    z.wallSeconds instant = .ok (instant + z.offsetAt instant) := by
  have := hz.offsetAt_between instant
  rw [wallSeconds, if_pos (by omega)]

/-- The search looks at the wall-clock time, at what it shows there, at the day before, and at one
more instant. -/
theorem instantOf_eq {wall : Int} (hlower : 345600 ≤ wall) (hupper : wall + 345600 ≤ endOfTime) :
    z.instantOf wall = .ok (z.settled wall) := by
  have hguess := hz.offsetAt_between wall
  have hshown := hz.offsetAt_between (wall - z.offsetAt wall)
  have hearlier := hz.offsetAt_between (wall - z.offsetAt wall - secondsPerDay)
  have hday : 86400 ≤ wall - z.offsetAt wall - secondsPerDay ∧
      wall - z.offsetAt wall - secondsPerDay + 86400 ≤ endOfTime := by
    simp only [secondsPerDay]
    omega
  simp only [instantOf, settled, bind, Except.bind, add_sub_cancel_left,
    hz.wallSeconds_eq (show 86400 ≤ wall by omega) (by omega),
    hz.wallSeconds_eq (show 86400 ≤ wall - z.offsetAt wall by omega) (by omega),
    hz.wallSeconds_eq hday.1 hday.2]
  split
  · rename_i hfirst
    simp only [Except.map, add_sub_cancel_left,
      hz.wallSeconds_eq (show 86400 ≤ wall - z.offsetAt (wall - z.offsetAt wall - secondsPerDay) by
        omega) (by omega)]
    split
    · -- the second reading is the first one again
      rename_i hsame
      rw [hsame.2, if_pos hfirst]
      rfl
    · split_ifs <;> rfl
  · rename_i hfirst
    simp only [pure, Except.pure, hfirst, false_and, if_false,
      hz.wallSeconds_eq (show 86400 ≤ wall - z.offsetAt (wall - z.offsetAt wall) by omega) (by omega)]
    split_ifs <;> rfl

theorem ofWall_eq {w : WallTime} (hlower : 345600 ≤ w.seconds)
    (hupper : w.seconds + 345600 ≤ endOfTime) :
    z.ofWall w = (w.atSeconds (w.seconds - z.offsetAt (z.settled w.seconds))).bind
      fun utc => z.localize ⟨utc, 0⟩ := by
  rw [ofWall, hz.instantOf_eq hlower hupper]
  rfl

theorem localize_eq_ok {t : Timestamp} (hlower : 86400 ≤ t.instant)
    (hupper : t.instant + 86400 ≤ endOfTime) : ∃ shown, z.localize t = .ok shown := by
  have hoffset := hz.offsetAt_between t.instant
  exact exists_localize (by omega) (by omega)

theorem ofWall_eq_ok {w : WallTime} (hlower : 345600 ≤ w.seconds)
    (hupper : w.seconds + 345600 ≤ endOfTime) : ∃ t, z.ofWall w = .ok t := by
  have hoffset := hz.offsetAt_between (z.settled w.seconds)
  obtain ⟨utc, hutc, hseconds⟩ :=
    exists_atSeconds w (w.seconds - z.offsetAt (z.settled w.seconds)) (by omega)
  have hutcInstant : (⟨utc, 0⟩ : Timestamp).instant =
      w.seconds - z.offsetAt (z.settled w.seconds) := by
    rw [Timestamp.instant_mk_zero, hseconds]
  rcases hz.localize_eq_ok (t := ⟨utc, 0⟩) (by omega) (by omega) with ⟨t, ht⟩
  refine ⟨t, ?_⟩
  rw [hz.ofWall_eq hlower hupper, hutc]
  exact ht

theorem interpret_eq_ok {w : WallTime} (hyear : 2 ≤ w.date.year ∧ w.date.year ≤ 9998)
    (mode : ZoneMode) : ∃ t, mode.interpret z w = .ok t := by
  cases mode with
  | utc => exact ⟨_, rfl⟩
  | localTime => exact hz.ofWall_eq_ok (w.inner_of_year hyear).1 (w.inner_of_year hyear).2

end Zone.IsProper

end VersionStamp.Calendar
