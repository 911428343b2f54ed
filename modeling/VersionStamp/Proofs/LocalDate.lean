import VersionStamp.Proofs.LocalRoundTrip

/-! Reading a date back in local time, where the version string shows no time of day. The date is read
as its midnight. Where the clock shows that midnight the version string is the same again. Where the
clock goes forward over midnight, what is read is a time of an earlier day, and that is the date of its
version string. -/

namespace VersionStamp

open Calendar

theorem Calendar.WallTime.day_eq_of_dateDigits {v w : WallTime}
    (h : v.dateDigits = w.dateDigits) : v.day = w.day := by
  have hread (u : WallTime) : assemble .utc .utc u.dateDigits [] = .ok ⟨u.midnight, 0⟩ := by
    rw [assemble_dateDigits]
    rfl
  have hmidnight : v.midnight = w.midnight := by
    have hsame := hread v
    rw [h, hread w, Except.ok.injEq, Timestamp.mk.injEq] at hsame
    exact hsame.1.symm
  rw [← v.midnight_day, hmidnight, w.midnight_day]

/-- Where a template shows a date and no time of day, the version string of what was read is the same
just if the day is. -/
theorem Template.render_project_eq_ok_iff {t : Template} (hdate : t.uses .date = true)
    (htime : t.uses .time = false) {zone : Zone} {s : State} {wall : WallTime}
    (hshow : ∀ f ∈ fieldsOf t.segments, f.Showable zone s wall)
    (hmatch : t.recognizes (shownText s wall t.segments) = true) {timestamp : Timestamp}
    (hlocal : zone.localize timestamp = .ok timestamp) :
    t.render zone (t.project s timestamp .localTime) = .ok (shownText s wall t.segments) ↔
      timestamp.wall.day = wall.day := by
  have hcounter (c : Counter) (hused : .counter c ∈ fieldsOf t.segments) :
      (t.project s timestamp .localTime).counter c = s.counter c := by
    rw [counter_project, if_pos (uses_iff.2 hused)]
  rw [render_eq_of_renderAll (renderAll_of_showable (showable_project hshow hlocal))]
  constructor
  · intro hrender
    split at hrender
    · have hword := shown_field_eq_of_shownText_eq (fun c hused => (hcounter c hused).le)
        (Except.ok.inj hrender) (uses_iff.1 hdate)
      exact WallTime.day_eq_of_dateDigits hword
    · cases hrender
  · intro hday
    have hsame : shownText (t.project s timestamp .localTime) timestamp.wall t.segments =
        shownText s wall t.segments := by
      apply shownText_congr_fields
      rintro (c | _ | _) hf
      · exact congrArg Text.decimal (hcounter c hf)
      · simp [Piece.shown, WallTime.dateDigits, WallTime.date, hday]
      · rw [uses_iff.2 hf] at htime
        cases htime
    rw [hsame, if_pos hmatch]

/-- Midnight of a date is read as a time of that date where the clock shows it, and of an earlier one
where it is skipped. -/
theorem Calendar.Zone.IsProper.ofWall_midnight {zone : Zone} (hz : zone.IsProper) {w : WallTime}
    (hyear : 2 ≤ w.date.year ∧ w.date.year ≤ 9998) :
    ∃ timestamp, zone.ofWall w.midnight = .ok timestamp ∧ zone.localize timestamp = .ok timestamp ∧
      ((∃ instant, zone.Shows instant w.midnight.seconds) ∧ timestamp.wall.day = w.day ∨
        (¬∃ instant, zone.Shows instant w.midnight.seconds) ∧ timestamp.wall.day < w.day) := by
  rw [← w.midnight_date] at hyear
  rcases w.midnight.inner_of_year hyear with ⟨hlower, hupper⟩
  by_cases h : ∃ instant, zone.Shows instant w.midnight.seconds
  · obtain ⟨instant, hinstant⟩ := h
    obtain ⟨timestamp, hread, hwall, hself, -⟩ := hz.ofWall_of_shows hlower hupper hinstant
    refine ⟨timestamp, hread, hself, .inl ⟨⟨instant, hinstant⟩, ?_⟩⟩
    rw [hwall, w.midnight_day]
  · obtain ⟨timestamp, hread, hself, hearlier⟩ := hz.ofWall_of_skipped hlower hupper (not_exists.1 h)
    refine ⟨timestamp, hread, hself, .inr ⟨h, ?_⟩⟩
    simp only [WallTime.midnight, secondsPerDay] at hearlier
    simp only [WallTime.day, secondsPerDay] at hearlier ⊢
    omega

section

variable {source : List Char} {recognizer : Option (List Char)} {t : Template}
  (hc : Template.compile source recognizer = .ok t) (hs : Separable t.segments)
  (hdate : t.uses .date = true) (htime : t.uses .time = false) {zone : Zone} (hz : zone.IsProper)
  {s : State} {shown : Timestamp} (hshown : s.shownTimestamp zone = .ok shown)
  (hyear : 2 ≤ shown.wall.date.year ∧ shown.wall.date.year ≤ 9998)

include hc hs hdate htime hz hshown hyear

/-- In local time a version string with a date and no time of day gives back the counters. The state
that is read has the same version string just where midnight of the date is shown by the clock, as it
always is without daylight time. Where midnight is skipped, the state is of an earlier day. -/
theorem parse_render_local_date {version : List Char} (hv : t.render zone s = .ok version)
    (clock : Clock) :
    ∃ p, t.parse zone .localTime clock version = (.ok p, clock.read.2) ∧
      (∀ c, p.counter c = if t.uses (.counter c) then s.counter c else 0) ∧
      (t.render zone p = .ok version ↔
        ∃ instant, zone.Shows instant shown.wall.midnight.seconds) ∧
      (zone.daylight = none → t.render zone p = .ok version) ∧
      ((¬∃ instant, zone.Shows instant shown.wall.midnight.seconds) →
        p.timestamp.wall.day < shown.wall.day) := by
  rcases Template.render_eq_ok hv with ⟨wall, hshow, rfl, hmatch⟩
  obtain ⟨_, hshown', rfl⟩ := hshow .date (Template.uses_iff.1 hdate)
  rw [hshown] at hshown'
  cases hshown'
  obtain ⟨timestamp, hread, hself, hday⟩ := hz.ofWall_midnight hyear
  have hstamp : t.restamp zone .localTime clock.read.1 shown.wall = .ok timestamp := by
    rw [Template.restamp, if_pos hdate, if_neg (by simp [htime])]
    exact hread
  have hagain : t.render zone (t.project s timestamp .localTime) =
        .ok (shownText s shown.wall t.segments) ↔
      ∃ instant, zone.Shows instant shown.wall.midnight.seconds := by
    rw [Template.render_project_eq_ok_iff hdate htime hshow hmatch hself]
    rcases hday with ⟨hshows, hday⟩ | ⟨hskip, hday⟩
    · exact iff_of_true hday hshows
    · exact iff_of_false hday.ne hskip
  refine ⟨t.project s timestamp .localTime,
    by rw [Template.parse, Template.parseAt_shown hc hs hshow hstamp],
    t.counter_project s timestamp .localTime, hagain, ?_, ?_⟩
  · intro hstandard
    exact hagain.2 ⟨_, Zone.shows_of_standard hstandard _⟩
  · intro hskip
    rcases hday with ⟨hshows, -⟩ | ⟨-, hday⟩
    · exact absurd hshows hskip
    · exact hday

end

/-- Five hours behind UTC, and four from midnight of the second Sunday of March to one o'clock of the
first of November. The first hour of the tenth of March 2024 is skipped, and what is read of that
date is of the ninth. -/
theorem parse_render_local_date_skipped : ∃ zone s t version p,
    zone = ⟨-18000, some ⟨-14400, ⟨.ofMonth 3 2 0, 0⟩, ⟨.ofMonth 11 1 0, 3600⟩⟩⟩ ∧
    s = ⟨0, 0, 3, ⟨⟨63845668800, 0, by decide, by decide⟩, -14400000000⟩, .localTime⟩ ∧
    Template.compile ['v', '%', 'b', '%', '-', '%', 'd', '%'] none = .ok t ∧
    Separable t.segments ∧ t.uses .date = true ∧ t.uses .time = false ∧
    t.render zone s = .ok version ∧
    version = ['v', '3', '-', '2', '0', '2', '4', '0', '3', '1', '0'] ∧
    t.parse zone .localTime (.ofSteps ⟨.start, 0⟩ 1) version =
      (.ok p, (Clock.ofSteps ⟨.start, 0⟩ 1).read.2) ∧
    p.build = 3 ∧ p.timestamp.wall.day < s.timestamp.wall.day ∧ t.render zone p ≠ .ok version := by
  obtain ⟨zone, s, t, hzone, hstate, ht, hs, hbuild, hdate, htime, hproper, hversion⟩ :
      ∃ (zone : Zone) (s : State) (t : Template),
      zone = ⟨-18000, some ⟨-14400, ⟨.ofMonth 3 2 0, 0⟩, ⟨.ofMonth 11 1 0, 3600⟩⟩⟩ ∧
      s = ⟨0, 0, 3, ⟨⟨63845668800, 0, by decide, by decide⟩, -14400000000⟩, .localTime⟩ ∧
      Template.compile ['v', '%', 'b', '%', '-', '%', 'd', '%'] none = .ok t ∧
      Separable t.segments ∧ t.uses .build = true ∧ t.uses .date = true ∧ t.uses .time = false ∧
      zone.IsProper ∧ shownText s s.timestamp.wall t.segments =
        ['v', '3', '-', '2', '0', '2', '4', '0', '3', '1', '0'] :=
    ⟨_, _, _, rfl, rfl, rfl, by decide, rfl, rfl, rfl, ⟨by decide, by decide⟩, by decide⟩
  have hshown : s.shownTimestamp zone = .ok s.timestamp := by
    rw [hzone, hstate]
    rfl
  have hyear : 2 ≤ s.timestamp.wall.date.year ∧ s.timestamp.wall.date.year ≤ 9998 := by
    rw [hstate]
    decide
  have hskip : ¬∃ instant, zone.Shows instant s.timestamp.wall.midnight.seconds := by
    rw [hzone, hstate, Zone.exists_shows_iff]
    decide
  have hwritable (c : Counter) : Text.isWritable (s.counter c) = true := by
    rw [hstate]
    exact Text.isWritable_iff.2 (by cases c <;> decide)
  obtain ⟨hv, -⟩ := Template.render_of_shown ht hwritable hshown
  obtain ⟨p, hparse, hcounter, hagain, -, hearlier⟩ := parse_render_local_date ht hs hdate htime
    hproper hshown hyear hv (.ofSteps ⟨.start, 0⟩ 1)
  refine ⟨zone, s, t, _, p, hzone, hstate, ht, hs, hdate, htime, hv, hversion, hparse, ?_,
    hearlier hskip, hagain.not.2 hskip⟩
  have hcount := hcounter .build
  rw [if_pos hbuild, hstate] at hcount
  exact hcount

end VersionStamp
