import VersionStamp.Proofs.Calendar.Zone
import VersionStamp.Proofs.Outcome

/-! Local time and instants. A zone has two offsets, so a wall-clock time is shown at two instants
at most. One that is shown at all is read as an instant that shows it; which of two is taken does
not change what is shown. One that is skipped is read as an instant that shows an earlier time. -/

namespace VersionStamp.Calendar

theorem WallTime.atSeconds_eq_ok_iff {w shown : WallTime} {seconds : Int} :
    w.atSeconds seconds = .ok shown ↔ shown.seconds = seconds ∧ shown.micros = w.micros := by
  unfold atSeconds
  split
  · rename_i h
    rw [Except.ok.injEq, WallTime.mk.injEq]
    exact ⟨fun h => ⟨h.1.symm, h.2.symm⟩, fun h => ⟨h.1.symm, h.2.symm⟩⟩
  · rename_i h
    simp only [reduceCtorEq, false_iff]
    rintro ⟨rfl, -⟩
    exact h shown.seconds_inRange

theorem Timestamp.toUtc_eq_ok {t utc : Timestamp} (h : t.toUtc = .ok utc) :
    utc.offset = 0 ∧ utc.microInstant = t.microInstant ∧ utc.wall.seconds = t.instant := by
  rcases atOffset_eq_ok_iff.1 h with ⟨hinstant, hoffset⟩
  have hzero : utc.offset = 0 * 1000000 := by rw [hoffset, zero_mul]
  refine ⟨hoffset, hinstant, ?_⟩
  rw [wall_seconds hzero, add_zero, instant_congr hinstant]

namespace Zone

variable {z : Zone}

theorem localize_eq_ok_iff {t shown : Timestamp} : z.localize t = .ok shown ↔
    (0 ≤ t.instant ∧ t.instant < endOfTime) ∧ shown.microInstant = t.microInstant ∧
      shown.offset = z.offsetAt t.instant * 1000000 := by
  rw [localize]
  cases hutc : t.toUtc with
  | error e =>
    constructor
    · intro h
      cases h
    · rintro ⟨hrange, -⟩
      rcases t.exists_atOffset 0 (by omega) with ⟨utc, hutc', -⟩
      rw [zero_mul, ← Timestamp.toUtc, hutc] at hutc'
      cases hutc'
  | ok utc =>
    rcases Timestamp.toUtc_eq_ok hutc with ⟨-, hmicro, hwall⟩
    have hinstant : utc.instant = t.instant := Timestamp.instant_congr hmicro
    have hrange := utc.wall.seconds_inRange
    rw [hwall] at hrange
    change utc.atOffset (z.offsetAt utc.instant * 1000000) = _ ↔ _
    rw [Timestamp.atOffset_eq_ok_iff, hinstant, hmicro]
    exact (and_iff_right hrange).symm

theorem localize_mk_zero {w : WallTime} {shown : Timestamp} (h : z.localize ⟨w, 0⟩ = .ok shown) :
    shown.instant = w.seconds ∧ shown.offset = z.offsetAt shown.instant * 1000000 ∧
      shown.wall.micros = w.micros := by
  rcases localize_eq_ok_iff.1 h with ⟨-, hmicro, hoffset⟩
  have hinstant : shown.instant = (⟨w, 0⟩ : Timestamp).instant := Timestamp.instant_congr hmicro
  rw [hinstant, ← Timestamp.instant_mk_zero]
  refine ⟨rfl, hoffset, ?_⟩
  have hutc : (⟨w, 0⟩ : Timestamp).offset = 0 * 1000000 := rfl
  apply Int.ofNat.inj
  change (shown.wall.micros : Int) = w.micros
  rw [Timestamp.wall_micros hoffset, hmicro, ← Timestamp.wall_micros hutc]

theorem shows_of_offset {t : Timestamp} (h : t.offset = z.offsetAt t.instant * 1000000) :
    z.Shows t.instant t.wall.seconds :=
  (Timestamp.wall_seconds h).symm

theorem Shows.sub_offsetAt {instant wall : Int} (h : z.Shows instant wall) :
    wall - z.offsetAt instant = instant := by
  rw [← h, Int.add_sub_cancel]

theorem shows_of_standard (h : z.daylight = none) (wall : Int) :
    z.Shows (wall - z.standard) wall := by
  simp [Shows, offsetAt, h]

/-- A wall-clock time is shown at two instants at most, one for each offset. -/
theorem exists_shows_iff {wall : Int} : (∃ instant, z.Shows instant wall) ↔
    z.Shows (wall - z.standard) wall ∨ ∃ d ∈ z.daylight, z.Shows (wall - d.offset) wall := by
  constructor
  · rintro ⟨instant, h⟩
    have hoffset : z.offsetAt instant = z.standard ∨
        ∃ d ∈ z.daylight, z.offsetAt instant = d.offset := by
      unfold offsetAt
      cases z.daylight with
      | none => exact .inl rfl
      | some d =>
        by_cases hd : z.isDaylight d instant = true
        · simp [hd]
        · simp [hd]
    rcases hoffset with hoffset | ⟨d, hd, hoffset⟩
    · left
      rw [← hoffset, h.sub_offsetAt]
      exact h
    · refine .inr ⟨d, hd, ?_⟩
      rw [← hoffset, h.sub_offsetAt]
      exact h
  · rintro (h | ⟨d, -, h⟩)
    · exact ⟨_, h⟩
    · exact ⟨_, h⟩

/-- Of three instants two have the same offset. -/
theorem offsetAt_two (z : Zone) (a b c : Int) :
    z.offsetAt a = z.offsetAt b ∨ z.offsetAt a = z.offsetAt c ∨ z.offsetAt b = z.offsetAt c := by
  unfold offsetAt
  cases z.daylight with
  | none => exact .inl rfl
  | some d =>
    simp only
    split_ifs <;> simp

theorem settled_shows {instant wall : Int} (h : z.Shows instant wall) :
    z.Shows (z.settled wall) wall := by
  simp only [settled]
  split
  · rename_i hfirst
    split
    · rename_i hsecond
      exact hsecond
    · exact hfirst
  · rename_i hfirst
    split
    · rename_i hsecond
      exact hsecond
    · -- neither offset gives an instant that shows the time, but `instant` has one of the two
      rename_i hsecond
      exfalso
      have hinstant := h.sub_offsetAt
      rcases z.offsetAt_two instant wall (wall - z.offsetAt wall) with heq | heq | heq
      · rw [heq] at hinstant
        exact hfirst (hinstant ▸ h)
      · rw [heq] at hinstant
        exact hsecond (hinstant ▸ h)
      · rw [← heq] at hfirst
        exact hfirst (Int.sub_add_cancel ..)

/-- A skipped wall-clock time lies between two offsets. It is settled on the later of its two readings
and read at the offset in force there, the greater one. That goes back to before the change, where
the clock still has the smaller offset. -/
theorem add_offsetAt_lt_of_skipped {wall : Int} (h : ∀ instant, ¬z.Shows instant wall) :
    wall - z.offsetAt (z.settled wall) +
      z.offsetAt (wall - z.offsetAt (z.settled wall)) < wall := by
  obtain ⟨first, hfirst⟩ : ∃ first, first = wall - z.offsetAt wall := ⟨_, rfl⟩
  obtain ⟨second, hsecond⟩ : ∃ second, second = wall - z.offsetAt first := ⟨_, rfl⟩
  have hsettled : z.settled wall = max first second := by
    have hnot1 : ¬first + z.offsetAt first = wall := h first
    have hnot2 : ¬second + z.offsetAt second = wall := h second
    simp only [settled, ← hfirst, if_neg hnot1, ← hsecond, if_neg hnot2]
  have hshown1 : first + z.offsetAt first ≠ wall := h first
  have hshown2 : second + z.offsetAt second ≠ wall := h second
  -- with two offsets in all, the second reading is back at the offset of the guess
  have hback : z.offsetAt second = z.offsetAt wall := by
    rcases z.offsetAt_two wall first second with heq | heq | heq
    · omega
    · exact heq.symm
    · omega
  rw [hsettled]
  rcases lt_or_gt_of_ne (show first ≠ second by omega) with hlt | hgt
  · rw [max_eq_right hlt.le, hback, ← hfirst]
    omega
  · rw [max_eq_left hgt.le, ← hsecond, hback]
    omega

end Zone

/-- A wall-clock time is read at the offset of the instant that it is settled on, and then shown in
local time. -/
theorem Zone.IsProper.ofWall_spec {z : Zone} (hz : z.IsProper) {w : WallTime}
    (hlower : 345600 ≤ w.seconds) (hupper : w.seconds + 345600 ≤ endOfTime) :
    ∃ t, z.ofWall w = .ok t ∧ z.localize t = .ok t ∧
      t.instant = w.seconds - z.offsetAt (z.settled w.seconds) ∧
      z.Shows t.instant t.wall.seconds ∧ t.wall.micros = w.micros := by
  rcases hz.ofWall_eq_ok hlower hupper with ⟨t, ht⟩
  have hread := ht
  rw [hz.ofWall_eq hlower hupper] at hread
  rcases bind_eq_ok.1 hread with ⟨utc, hutc, hlocal⟩
  rcases WallTime.atSeconds_eq_ok_iff.1 hutc with ⟨hseconds, hmicros⟩
  rcases Zone.localize_mk_zero hlocal with ⟨hinstant, hoffset, hsame⟩
  have hrange := utc.seconds_inRange
  rw [← hinstant] at hrange
  exact ⟨t, ht, Zone.localize_eq_ok_iff.2 ⟨hrange, rfl, hoffset⟩, hinstant.trans hseconds,
    Zone.shows_of_offset hoffset, hsame.trans hmicros⟩

/-- A wall-clock time that is shown at some instant is read as a timestamp of local time that shows
it. -/
theorem Zone.IsProper.ofWall_of_shows {z : Zone} (hz : z.IsProper) {w : WallTime} {instant : Int}
    (hlower : 345600 ≤ w.seconds) (hupper : w.seconds + 345600 ≤ endOfTime)
    (h : z.Shows instant w.seconds) :
    ∃ t, z.ofWall w = .ok t ∧ t.wall = w ∧ z.localize t = .ok t ∧ z.Shows t.instant w.seconds := by
  have hshows := Zone.settled_shows h
  obtain ⟨t, ht, hlocal, hinstant, hwall, hmicros⟩ := hz.ofWall_spec hlower hupper
  rw [hshows.sub_offsetAt] at hinstant
  rw [← hinstant] at hshows
  have hsame : t.wall = w := by
    apply WallTime.eq_of_microseconds
    rw [WallTime.microseconds, ← hwall, hshows, hmicros, ← WallTime.microseconds]
  exact ⟨t, ht, hsame, hlocal, hshows⟩

/-- A wall-clock time that is skipped is read as a timestamp of local time that shows an earlier
one. -/
theorem Zone.IsProper.ofWall_of_skipped {z : Zone} (hz : z.IsProper) {w : WallTime}
    (hlower : 345600 ≤ w.seconds) (hupper : w.seconds + 345600 ≤ endOfTime)
    (h : ∀ instant, ¬z.Shows instant w.seconds) :
    ∃ t, z.ofWall w = .ok t ∧ z.localize t = .ok t ∧ t.wall.seconds < w.seconds := by
  obtain ⟨t, ht, hlocal, hinstant, hwall, -⟩ := hz.ofWall_spec hlower hupper
  refine ⟨t, ht, hlocal, ?_⟩
  rw [← hwall, hinstant]
  exact Zone.add_offsetAt_lt_of_skipped h

/-- The offset from UTC that a mode shows at an instant. -/
def ZoneMode.offsetAt (mode : ZoneMode) (z : Zone) (instant : Int) : Int :=
  match mode with
  | .utc => 0
  | .localTime => z.offsetAt instant

theorem ZoneMode.offset_of_interpret {mode : ZoneMode} {z : Zone} {w : WallTime} {t : Timestamp}
    (h : mode.interpret z w = .ok t) :
    t.offset = mode.offsetAt z t.instant * 1000000 ∧ t.wall.micros = w.micros := by
  cases mode with
  | utc =>
    cases h
    exact ⟨rfl, rfl⟩
  | localTime =>
    rcases bind_eq_ok.1 h with ⟨instant, -, h⟩
    rcases bind_eq_ok.1 h with ⟨utc, hutc, hlocal⟩
    rcases Zone.localize_mk_zero hlocal with ⟨-, hoffset, hmicros⟩
    exact ⟨hoffset, hmicros.trans (WallTime.atSeconds_eq_ok_iff.1 hutc).2⟩

theorem ZoneMode.eq_of_microInstant {mode : ZoneMode} {z : Zone} {a b : Timestamp}
    (ha : a.offset = mode.offsetAt z a.instant * 1000000)
    (hb : b.offset = mode.offsetAt z b.instant * 1000000)
    (h : a.microInstant = b.microInstant) : a = b := by
  have hoffset : a.offset = b.offset := by rw [ha, hb, Timestamp.instant_congr h]
  have hwall : a.wall = b.wall := by
    apply WallTime.eq_of_microseconds
    rw [a.wall_microseconds, b.wall_microseconds, h, hoffset]
  rcases a with ⟨_, _⟩
  rw [Timestamp.mk.injEq]
  exact ⟨hwall, hoffset⟩

end VersionStamp.Calendar
