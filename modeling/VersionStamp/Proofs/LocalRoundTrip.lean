import VersionStamp.Proofs.Calendar.LocalTime
import VersionStamp.Proofs.RoundTrip

/-! Reading a version string back in local time. The wall-clock time of a version string was shown
at some instant, so it is read as an instant that shows it, and the version string of what was read
is the same again. The instant is another one only where the clock showed that time twice. -/

namespace VersionStamp

open Calendar

/-- A version string depends on what its fields show. -/
theorem shownText_congr_fields {a b : State} {v w : WallTime} {segments : List Segment}
    (h : ∀ f ∈ fieldsOf segments, (Piece.field f).shown a v = (Piece.field f).shown b w) :
    shownText a v segments = shownText b w segments := by
  rw [shownText, shownText, shownWords, shownWords]
  congr 1
  apply List.map_congr_left
  intro segment hmem
  cases hpiece : segment.piece with
  | field f => exact h f (mem_fieldsOf.2 ⟨segment, hmem, hpiece⟩)
  | _ => rfl

theorem shownText_congr {a b : State} {v w : WallTime} {segments : List Segment}
    (hdate : v.dateDigits = w.dateDigits) (htime : v.timeDigits = w.timeDigits)
    (hcounter : ∀ c, .counter c ∈ fieldsOf segments → a.counter c = b.counter c) :
    shownText a v segments = shownText b w segments := by
  apply shownText_congr_fields
  rintro (c | _ | _) hf
  · exact congrArg Text.decimal (hcounter c hf)
  · exact hdate
  · exact htime

theorem Template.showable_project {t : Template} {zone : Zone} {s : State} {wall : WallTime}
    (hshow : ∀ f ∈ fieldsOf t.segments, f.Showable zone s wall) {timestamp : Timestamp}
    (hlocal : zone.localize timestamp = .ok timestamp) :
    ∀ f ∈ fieldsOf t.segments,
      f.Showable zone (t.project s timestamp .localTime) timestamp.wall := by
  rintro (c | _ | _) hf
  · rw [Field.Showable, counter_project, if_pos (uses_iff.2 hf)]
    exact hshow _ hf
  · exact ⟨timestamp, hlocal, rfl⟩
  · exact ⟨timestamp, hlocal, rfl⟩

section

variable {source : List Char} {recognizer : Option (List Char)} {t : Template}
  (hc : Template.compile source recognizer = .ok t) (hs : Separable t.segments)
  (hdate : t.uses .date = true) (htime : t.uses .time = true) {zone : Zone} (hz : zone.IsProper)
  {s : State} (hmode : s.mode = .localTime) {shown : Timestamp}
  (hshown : s.shownTimestamp zone = .ok shown)
  (hyear : 2 ≤ shown.wall.date.year ∧ shown.wall.date.year ≤ 9998)

include hc hs hdate htime hz hmode hshown hyear

/-- In local time a version string with a date and a time of day gives back the counters, and the
state that is read has the same version string. Its instant is a whole second, the one of the
original unless the wall-clock time is shown at two instants. -/
theorem parse_render_local {version : List Char} (hv : t.render zone s = .ok version)
    (clock : Clock) :
    ∃ p, t.parse zone .localTime clock version = (.ok p, clock.read.2) ∧
      (∀ c, p.counter c = if t.uses (.counter c) then s.counter c else 0) ∧
      t.render zone p = .ok version ∧ p.timestamp.wall.micros = 0 ∧
      ((∀ instant, zone.Shows instant shown.wall.seconds → instant = s.timestamp.instant) →
        p.timestamp.instant = s.timestamp.instant) := by
  rcases Template.render_eq_ok hv with ⟨wall, hshow, rfl, hmatch⟩
  obtain ⟨_, hshown', rfl⟩ := hshow .date (Template.uses_iff.1 hdate)
  rw [hshown] at hshown'
  cases hshown'
  have hlocal : zone.localize s.timestamp = .ok shown := by
    rwa [State.shownTimestamp, hmode] at hshown
  rcases Zone.localize_eq_ok_iff.1 hlocal with ⟨-, hmicro, hoffset⟩
  have hinstant : shown.instant = s.timestamp.instant := Timestamp.instant_congr hmicro
  -- the original instant is one at which the wall-clock time is shown
  have hshows : zone.Shows s.timestamp.instant shown.wall.truncate.seconds := by
    rw [← hinstant] at hoffset ⊢
    exact Zone.shows_of_offset hoffset
  rcases shown.wall.inner_of_year hyear with ⟨hlower, hupper⟩
  obtain ⟨timestamp, hread, hwall, hself, hagain⟩ :=
    hz.ofWall_of_shows (w := shown.wall.truncate) hlower hupper hshows
  have hstamp : t.restamp zone .localTime clock.read.1 shown.wall = .ok timestamp := by
    rw [Template.restamp, if_pos hdate, if_pos htime]
    exact hread
  refine ⟨t.project s timestamp .localTime,
    by rw [Template.parse, Template.parseAt_shown hc hs hshow hstamp],
    t.counter_project s timestamp .localTime, ?_, by rw [Template.project, hwall]; rfl,
    fun hunique => hunique _ hagain⟩
  have hsame : shownText (t.project s timestamp .localTime) timestamp.wall t.segments =
      shownText s shown.wall t.segments := by
    refine shownText_congr (by rw [hwall]; rfl) (by rw [hwall]; rfl) fun c hcounter => ?_
    rw [Template.counter_project, if_pos (Template.uses_iff.2 hcounter)]
  rw [Template.render_eq_of_renderAll
    (renderAll_of_showable (Template.showable_project hshow hself)), hsame, if_pos hmatch]

end

/-- Five hours behind UTC, and four from the second Sunday of March to the first of November. In the
second of the two hours from one to two of that night the version string is the same again. -/
theorem parse_render_local_repeated : ∃ t version p,
    Template.compile ['%', 'M', '%', '-', '%', 'd', '%', '.', '%', 't', '%'] none = .ok t ∧
    Separable t.segments ∧ t.uses .date = true ∧ t.uses .time = true ∧
    t.render ⟨-18000, some ⟨-14400, ⟨.ofMonth 3 2 0, 7200⟩, ⟨.ofMonth 11 1 0, 7200⟩⟩⟩
      ⟨3, 0, 0, ⟨⟨63771863415, 5, by decide, by decide⟩, 0⟩, .localTime⟩ = .ok version ∧
    t.parse ⟨-18000, some ⟨-14400, ⟨.ofMonth 3 2 0, 7200⟩, ⟨.ofMonth 11 1 0, 7200⟩⟩⟩ .localTime
      (.ofSteps ⟨.start, 0⟩ 1) version = (.ok p, (Clock.ofSteps ⟨.start, 0⟩ 1).read.2) ∧
    p.major = 3 ∧
    t.render ⟨-18000, some ⟨-14400, ⟨.ofMonth 3 2 0, 7200⟩, ⟨.ofMonth 11 1 0, 7200⟩⟩⟩ p = .ok version := by
  obtain ⟨t, ht, hs, hmajor, hdate, htime⟩ : ∃ t,
      Template.compile ['%', 'M', '%', '-', '%', 'd', '%', '.', '%', 't', '%'] none = .ok t ∧
      Separable t.segments ∧ t.uses .major = true ∧ t.uses .date = true ∧ t.uses .time = true :=
    ⟨_, rfl, by decide, rfl, rfl, rfl⟩
  obtain ⟨shown, hshown, hyear⟩ : ∃ shown, State.shownTimestamp
      ⟨3, 0, 0, ⟨⟨63771863415, 5, by decide, by decide⟩, 0⟩, .localTime⟩
      ⟨-18000, some ⟨-14400, ⟨.ofMonth 3 2 0, 7200⟩, ⟨.ofMonth 11 1 0, 7200⟩⟩⟩ = .ok shown ∧
      2 ≤ shown.wall.date.year ∧ shown.wall.date.year ≤ 9998 :=
    ⟨⟨⟨63771845415, 5, by decide, by decide⟩, -18000000000⟩,
      Zone.localize_eq_ok_iff.2 ⟨by decide, by decide, by decide⟩, by decide⟩
  have hshow : ∀ f : Field, f.Showable ⟨-18000, some ⟨-14400, ⟨.ofMonth 3 2 0, 7200⟩, ⟨.ofMonth 11 1 0, 7200⟩⟩⟩
      ⟨3, 0, 0, ⟨⟨63771863415, 5, by decide, by decide⟩, 0⟩, .localTime⟩ shown.wall := by
    rintro (c | _ | _)
    · exact Text.isWritable_iff.2 (by cases c <;> decide)
    · exact ⟨_, hshown, rfl⟩
    · exact ⟨_, hshown, rfl⟩
  rcases Template.render_of_showable ht fun f _ => hshow f with ⟨hv, -⟩
  obtain ⟨p, hparse, hcounter, hagain, -, -⟩ := parse_render_local ht hs hdate htime
    ⟨by decide, by decide⟩ rfl hshown hyear hv (.ofSteps ⟨.start, 0⟩ 1)
  refine ⟨t, _, p, ht, hs, hdate, htime, hv, hparse, ?_, hagain⟩
  rw [show p.major = p.counter .major from rfl, hcounter, if_pos hmajor]
  rfl

end VersionStamp
