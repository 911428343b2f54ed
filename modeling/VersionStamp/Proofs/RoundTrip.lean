import VersionStamp.Proofs.Assemble
import VersionStamp.Proofs.Parse
import VersionStamp.Proofs.Render
import VersionStamp.Proofs.Scan
import VersionStamp.Proofs.Template.Grammar

/-! Reading a version string back. With a separable template the scan of a version string finds every
field again, so its counters are those of the state and its timestamp is the one that was shown, as
far as the template shows it. -/

namespace VersionStamp

open Calendar

namespace Capture

/-- The text of a field for a state. -/
def put (s : State) (wall : WallTime) (capture : Capture) : Field → Capture
  | .counter c => capture.setCounter c (s.counter c)
  | .date => { capture with date := wall.dateDigits }
  | .time => { capture with time := wall.timeDigits }

variable {zone : Zone} {s : State} {wall : WallTime}

theorem add_shown {f : Field} (h : f.Showable zone s wall) (capture : Capture) :
    capture.add f ((Piece.field f).shown s wall) = .ok (capture.put s wall f) := by
  cases f with
  | counter c => rw [add, Piece.shown, Text.readDigits_decimal h, put]
  | date => rfl
  | time => rfl

variable (s wall)

theorem counter?_foldl_put (fields : List Field) (base : Capture) (c : Counter) :
    (fields.foldl (put s wall) base).counter? c =
      if .counter c ∈ fields then some (s.counter c) else base.counter? c := by
  induction fields generalizing base with
  | nil => rfl
  | cons f fields ih =>
    rw [List.foldl_cons, ih]
    by_cases hlater : .counter c ∈ fields
    · simp [hlater]
    · cases f with
      | counter d =>
        by_cases hd : d = c
        · simp [put, hd]
        · simp [put, hd, Ne.symm hd]
      | date => cases c <;> simp [put, hlater, counter?]
      | time => cases c <;> simp [put, hlater, counter?]

theorem date_foldl_put (fields : List Field) (base : Capture) :
    (fields.foldl (put s wall) base).date =
      if .date ∈ fields then wall.dateDigits else base.date := by
  induction fields generalizing base with
  | nil => rfl
  | cons f fields ih =>
    rw [List.foldl_cons, ih]
    cases f <;> simp [put]

theorem time_foldl_put (fields : List Field) (base : Capture) :
    (fields.foldl (put s wall) base).time =
      if .time ∈ fields then wall.timeDigits else base.time := by
  induction fields generalizing base with
  | nil => rfl
  | cons f fields ih =>
    rw [List.foldl_cons, ih]
    cases f <;> simp [put]

end Capture

theorem takeWords_shown {zone : Zone} {s : State} {wall : WallTime} {segments : List Segment}
    (h : ∀ f ∈ fieldsOf segments, f.Showable zone s wall) (capture : Capture) :
    takeWords segments (shownWords s wall segments) capture =
      .ok ((fieldsOf segments).foldl (Capture.put s wall) capture) := by
  induction segments generalizing capture with
  | nil => rfl
  | cons segment segments ih =>
    rw [shownWords, List.map_cons, takeWords]
    cases hfield : segment.field? with
    | none =>
      rw [fieldsOf_cons_of_none hfield] at h ⊢
      exact ih h capture
    | some f =>
      have hpiece : segment.piece = .field f := Segment.field?_eq_some_iff.1 hfield
      rw [fieldsOf_cons_of_some hfield] at h ⊢
      rcases List.forall_mem_cons.1 h with ⟨hf, hrest⟩
      simp only [hpiece, Capture.add_shown hf]
      exact ih hrest (capture.put s wall f)

namespace Template

/-- What a template shows of a state: counters that it does not use are 0. -/
def project (t : Template) (s : State) (timestamp : Timestamp) (mode : ZoneMode) : State where
  major := if t.uses .major then s.major else 0
  minor := if t.uses .minor then s.minor else 0
  build := if t.uses .build then s.build else 0
  timestamp := timestamp
  mode := mode

theorem counter_project (t : Template) (s : State) (timestamp : Timestamp) (mode : ZoneMode)
    (c : Counter) :
    (t.project s timestamp mode).counter c = if t.uses (.counter c) then s.counter c else 0 := by
  cases c <;> rfl

/-- The timestamp that the fields of a template give for a wall-clock time that they show. -/
def restamp (t : Template) (zone : Zone) (mode : ZoneMode) (now : Timestamp) (wall : WallTime) :
    Except CalendarError Timestamp :=
  if t.uses .date then mode.interpret zone (if t.uses .time then wall.truncate else wall.midnight)
  else .ok now

section

variable {source : List Char} {recognizer : Option (List Char)} {t : Template} {zone : Zone}
  {s : State} {wall : WallTime}

theorem scan_shown (hc : compile source recognizer = .ok t) (hs : Separable t.segments)
    (hshow : ∀ f ∈ fieldsOf t.segments, f.Showable zone s wall) :
    t.scan (shownText s wall t.segments) =
      .ok ((fieldsOf t.segments).foldl (Capture.put s wall) {}) := by
  rw [shownText, scan_spelled hs (compile_eq_ok_iff.1 hc).literal_ne_nil
    (spells_shownWords s wall t.segments)]
  exact takeWords_shown hshow {}

theorem timestamp_shown (t : Template) (s : State) (wall : WallTime) {zone' : Zone}
    {mode : ZoneMode} {now timestamp : Timestamp}
    (h : t.restamp zone' mode now wall = .ok timestamp) :
    ((fieldsOf t.segments).foldl (Capture.put s wall) {}).timestamp zone' mode now =
      .ok timestamp := by
  rw [Capture.timestamp, Capture.date_foldl_put, Capture.time_foldl_put]
  simp only [restamp, uses_iff] at h
  by_cases hdate : Field.date ∈ fieldsOf t.segments
  · have hnonempty : wall.dateDigits.isEmpty = false :=
      List.isEmpty_eq_false_iff.2 wall.dateDigits_ne_nil
    rw [if_pos hdate] at h ⊢
    rw [hnonempty]
    by_cases htime : Field.time ∈ fieldsOf t.segments
    · rw [if_pos htime] at h ⊢
      simp [assemble_digits, h, Except.mapError]
    · rw [if_neg htime] at h ⊢
      simp [assemble_dateDigits, h, Except.mapError]
  · rw [if_neg hdate] at h ⊢
    have hempty : ({} : Capture).date.isEmpty = true := rfl
    rw [if_pos hempty, Except.ok.inj h]

theorem parseAt_shown (hc : compile source recognizer = .ok t) (hs : Separable t.segments)
    (hshow : ∀ f ∈ fieldsOf t.segments, f.Showable zone s wall) {zone' : Zone} {mode : ZoneMode}
    {now timestamp : Timestamp} (hstamp : t.restamp zone' mode now wall = .ok timestamp) :
    t.parseAt zone' mode now (shownText s wall t.segments) =
      .ok (t.project s timestamp mode) := by
  refine parseAt_eq_ok_iff.2 ⟨_, scan_shown hc hs hshow, timestamp_shown t s wall hstamp, rfl,
    fun c => ?_⟩
  rw [counter_project, Capture.counter?_foldl_put]
  simp only [uses_iff]
  split
  · rfl
  · cases c <;> rfl

end

end Template

/-- In UTC a version string gives back the counters that it shows and the whole second, or the day,
that it shows. -/
theorem parse_render_utc {source : List Char} {recognizer : Option (List Char)} {t : Template}
    (hc : Template.compile source recognizer = .ok t) (hs : Separable t.segments) {zone : Zone}
    {s : State} (hmode : s.mode = .utc) {version : List Char} (hv : t.render zone s = .ok version)
    (zone' : Zone) (clock : Clock) :
    ∃ p, t.parse zone' .utc clock version = (.ok p, clock.read.2) ∧
      p.mode = .utc ∧
      (∀ c, p.counter c = if t.uses (.counter c) then s.counter c else 0) ∧
      (t.uses .date = true → p.timestamp.offset = 0 ∧ p.timestamp.wall.micros = 0 ∧
        p.timestamp.instant =
          if t.uses .time then s.timestamp.instant
          else s.timestamp.instant / secondsPerDay * secondsPerDay) ∧
      (t.uses .date = false → p.timestamp = clock.read.1) := by
  rcases Template.render_eq_ok hv with ⟨wall, hshow, rfl, -⟩
  by_cases hdate : t.uses .date = true
  · rcases hshow .date (Template.uses_iff.1 hdate) with ⟨shown, hshown, rfl⟩
    rw [State.shownTimestamp, hmode] at hshown
    rcases Timestamp.toUtc_eq_ok hshown with ⟨-, -, hseconds⟩
    have hstamp : t.restamp zone' .utc clock.read.1 shown.wall = .ok
        ⟨if t.uses .time then shown.wall.truncate else shown.wall.midnight, 0⟩ := by
      rw [Template.restamp, if_pos hdate]
      rfl
    refine ⟨t.project s _ .utc, by rw [Template.parse, Template.parseAt_shown hc hs hshow hstamp],
      rfl, t.counter_project s _ .utc, fun _ => ⟨rfl, ?_, ?_⟩, fun h => by simp [hdate] at h⟩
    · cases t.uses .time <;> rfl
    · rw [Template.project, Timestamp.instant_mk_zero, ← hseconds]
      cases t.uses .time <;> rfl
  · have hstamp : t.restamp zone' .utc clock.read.1 wall = .ok clock.read.1 := by
      rw [Template.restamp, if_neg hdate]
    exact ⟨t.project s clock.read.1 .utc,
      by rw [Template.parse, Template.parseAt_shown hc hs hshow hstamp], rfl,
      t.counter_project s _ .utc, fun h => absurd h hdate, fun _ => rfl⟩

/-- A build number and a date, shown an hour, a minute and a second after midnight. -/
theorem parse_render_utc_dated : ∃ t version p,
    Template.compile ['%', 'b', '%', '-', '%', 'd', '%'] none = .ok t ∧ Separable t.segments ∧
    t.render .utc ⟨0, 2, 7, ⟨⟨90061, 5, by decide, by decide⟩, 0⟩, .utc⟩ = .ok version ∧
    t.parse .utc .utc (.ofSteps ⟨.start, 0⟩ 1) version =
      (.ok p, (Clock.ofSteps ⟨.start, 0⟩ 1).read.2) ∧
    p.build = 7 ∧ p.minor = 0 ∧ p.timestamp.instant = 86400 := by
  obtain ⟨t, ht, hs, hbuild, hminor, hdate, htime⟩ : ∃ t,
      Template.compile ['%', 'b', '%', '-', '%', 'd', '%'] none = .ok t ∧ Separable t.segments ∧
      t.uses .build = true ∧ t.uses .minor = false ∧ t.uses .date = true ∧ t.uses .time = false :=
    ⟨_, rfl, by decide, rfl, rfl, rfl, rfl⟩
  have hshow : ∀ f : Field, f.Showable .utc
      ⟨0, 2, 7, ⟨⟨90061, 5, by decide, by decide⟩, 0⟩, .utc⟩ ⟨90061, 5, by decide, by decide⟩ := by
    rintro (c | _ | _)
    · exact Text.isWritable_iff.2 (by cases c <;> decide)
    · exact ⟨_, rfl, rfl⟩
    · exact ⟨_, rfl, rfl⟩
  rcases Template.render_of_showable ht fun f _ => hshow f with ⟨hv, -⟩
  obtain ⟨p, hparse, -, hcounter, hdated, -⟩ :=
    parse_render_utc ht hs rfl hv .utc (.ofSteps ⟨.start, 0⟩ 1)
  rcases hdated hdate with ⟨-, -, hinstant⟩
  refine ⟨t, _, p, ht, hs, hv, hparse, ?_, ?_, ?_⟩
  · rw [show p.build = p.counter .build from rfl, hcounter, if_pos hbuild]
    rfl
  · rw [show p.minor = p.counter .minor from rfl, hcounter, hminor]
    rfl
  · rw [hinstant, htime]
    decide

end VersionStamp
