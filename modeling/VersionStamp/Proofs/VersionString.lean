import VersionStamp.Proofs.Calendar.LocalTime
import VersionStamp.Proofs.Render

/-! What a version string says. The words of a date and of a time of day are described by the day and
the second that their digits name, and the clock that they show by the instant of the state and the
offset in force there. -/

namespace VersionStamp

open Calendar

/-- The day that eight digits name: four for the year, two for the month and two for the day. -/
def dateOfDigits (word : List Char) : Date where
  year := Text.digitsValue (word.take 4)
  month := Text.digitsValue ((word.drop 4).take 2)
  day := Text.digitsValue (word.drop 6)

/-- Eight digits that name the day of a second, counted from the start of year 1. -/
structure NamesDay (seconds : Int) (word : List Char) : Prop where
  length_eq : word.length = 8
  isDigit : ∀ c ∈ word, c.isDigit = true
  isValid : (dateOfDigits word).IsValid
  dayNumber_eq : (dateOfDigits word).dayNumber = seconds / 86400

/-- Six digits that name the hour, the minute and the second of a day. -/
structure NamesSecond (seconds : Int) (word : List Char) : Prop where
  length_eq : word.length = 6
  isDigit : ∀ c ∈ word, c.isDigit = true
  hour_lt : Text.digitsValue (word.take 2) < 24
  minute_lt : Text.digitsValue ((word.drop 2).take 2) < 60
  second_lt : Text.digitsValue (word.drop 4) < 60
  seconds_eq : ((Text.digitsValue (word.take 2) * 3600 +
    Text.digitsValue ((word.drop 2).take 2) * 60 + Text.digitsValue (word.drop 4) : Nat) : Int) =
      seconds % 86400

/-- The word that stands for a piece, where the clock shows so many seconds since the start of
year 1. -/
def Piece.Says (s : State) (seconds : Int) : Piece → List Char → Prop
  | .literal text, word => word = text
  | .percent, word => word = ['%']
  | .field (.counter c), word => Text.IsShortest word ∧ Text.digitsValue word = s.counter c
  | .field .date, word => NamesDay seconds word
  | .field .time, word => NamesSecond seconds word

/-! ### Digits of a wall clock -/

theorem namesDay_dateDigits (w : WallTime) : NamesDay w.seconds w.dateDigits := by
  have hdate : dateOfDigits w.dateDigits = w.date := by
    have hyear := w.year_inRange
    obtain ⟨hyearText, hmonthText, hdayText⟩ := w.dateDigits_divide
    rw [dateOfDigits, hyearText, hmonthText, hdayText]
    simp only [Text.digitsValue_padded, Int.toNat_of_nonneg (show 0 ≤ w.date.year by omega)]
  exact {
    length_eq := w.dateDigits_length
    isDigit := w.isDigit_dateDigits
    isValid := hdate ▸ w.date_isValid
    dayNumber_eq := by
      rw [hdate, w.dayNumber_date]
      rfl }

theorem namesSecond_timeDigits (w : WallTime) : NamesSecond w.seconds w.timeDigits := by
  obtain ⟨hhour, hminute, hsecond⟩ := w.timeDigits_divide
  exact {
    length_eq := w.timeDigits_length
    isDigit := w.isDigit_timeDigits
    hour_lt := by simpa [hhour] using w.hour_lt
    minute_lt := by simpa [hminute] using w.minute_lt
    second_lt := by simpa [hsecond] using w.second_lt
    seconds_eq := by
      rw [hhour, hminute, hsecond, Text.digitsValue_padded, Text.digitsValue_padded,
        Text.digitsValue_padded, ← w.secondOfDay_eq, WallTime.secondOfDay, secondsPerDay]
      omega }

theorem Piece.says_shown (s : State) (w : WallTime) (p : Piece) :
    p.Says s w.seconds (p.shown s w) := by
  cases p with
  | literal text => rfl
  | percent => rfl
  | field f =>
    cases f with
    | counter c => exact ⟨Text.isShortest_decimal _, Text.digitsValue_decimal _⟩
    | date => exact namesDay_dateDigits w
    | time => exact namesSecond_timeDigits w

/-! ### The clock that is shown -/

namespace State

variable {s : State} {zone : Zone} {shown : Timestamp}

/-- What the clock of the mode shows, in seconds from the start of year 1. -/
def shownSeconds (s : State) (zone : Zone) : Int :=
  s.timestamp.instant + s.mode.offsetAt zone s.timestamp.instant

/-- UTC and the clock of the mode both show a time of the years 1 to 9999. -/
def InCalendar (s : State) (zone : Zone) : Prop :=
  ∀ seconds ∈ [s.timestamp.instant, s.shownSeconds zone], 0 ≤ seconds ∧ seconds < endOfTime

theorem inCalendar_iff : s.InCalendar zone ↔
    (0 ≤ s.timestamp.instant ∧ s.timestamp.instant < endOfTime) ∧
      0 ≤ s.shownSeconds zone ∧ s.shownSeconds zone < endOfTime := by
  simp [InCalendar]

theorem exists_shown (h : s.InCalendar zone) : ∃ shown, s.shownTimestamp zone = .ok shown := by
  rw [inCalendar_iff] at h
  rw [shownTimestamp]
  unfold shownSeconds at h
  cases hmode : s.mode with
  | utc =>
    rcases s.timestamp.exists_atOffset 0 (by omega) with ⟨shown, hshown, -⟩
    rw [zero_mul] at hshown
    exact ⟨shown, hshown⟩
  | localTime =>
    rw [hmode] at h
    exact Zone.exists_localize h.1 h.2

theorem wall_seconds_of_shown (h : s.shownTimestamp zone = .ok shown) :
    shown.wall.seconds = s.shownSeconds zone ∧ s.InCalendar zone := by
  have hrange := shown.wall.seconds_inRange
  rw [inCalendar_iff]
  rw [shownTimestamp] at h
  unfold shownSeconds
  cases hmode : s.mode with
  | utc =>
    rw [hmode] at h
    have hseconds : shown.wall.seconds = s.timestamp.instant := (Timestamp.toUtc_eq_ok h).2.2
    rw [ZoneMode.offsetAt, add_zero, ← hseconds]
    exact ⟨rfl, hrange, hrange⟩
  | localTime =>
    rw [hmode] at h
    rcases Zone.localize_eq_ok_iff.1 h with ⟨hutc, hmicro, hoffset⟩
    have hinstant : shown.instant = s.timestamp.instant := Timestamp.instant_congr hmicro
    have hseconds := Timestamp.wall_seconds hoffset
    rw [hinstant] at hseconds
    rw [ZoneMode.offsetAt, ← hseconds]
    exact ⟨rfl, hutc, hrange⟩

end State

/-! ### Version strings -/

/-- If the clock is needed and can be shown, the words say what it shows. -/
theorem says_shownWords {s : State} {zone : Zone} {wall : WallTime} {segments : List Segment}
    (h : ∀ f ∈ fieldsOf segments, f.Showable zone s wall) :
    List.Forall₂ (fun segment word => segment.piece.Says s (s.shownSeconds zone) word) segments
      (shownWords s wall segments) := by
  rw [shownWords, List.forall₂_map_right_iff, List.forall₂_same]
  intro segment hsegment
  have hsays := segment.piece.says_shown s wall
  have hclock (hshown : ∃ shown, s.shownTimestamp zone = .ok shown ∧ shown.wall = wall) :
      wall.seconds = s.shownSeconds zone := by
    rcases hshown with ⟨shown, hshown, rfl⟩
    exact (State.wall_seconds_of_shown hshown).1
  cases hpiece : segment.piece with
  | literal text => rfl
  | percent => rfl
  | field f =>
    have hshow := h f (mem_fieldsOf.2 ⟨segment, hsegment, hpiece⟩)
    rw [hpiece] at hsays
    cases f with
    | counter c => exact hsays
    | date => exact hclock hshow ▸ hsays
    | time => exact hclock hshow ▸ hsays

/-- With a derived recognizer a state is refused for a counter of more than 4300 digits or a time out
of the calendar, and for nothing else. Else its version string is one word for each segment, of what
the segment says about the counters and the clock, and it is recognized. -/
theorem render_derived {source : List Char} {t : Template}
    (h : Template.compile source none = .ok t) (zone : Zone) (s : State) :
    (∃ c, t.uses (.counter c) = true ∧ 4300 < (Nat.toDigits 10 (s.counter c)).length ∧
      t.render zone s = .error (.numeral .tooLarge)) ∨
    ((t.uses .date = true ∨ t.uses .time = true) ∧ ¬s.InCalendar zone ∧
      t.render zone s = .error (.calendar .dateOutOfRange)) ∨
    ((∀ c, t.uses (.counter c) = true → (Nat.toDigits 10 (s.counter c)).length ≤ 4300) ∧
      (t.uses .date = true ∨ t.uses .time = true → s.InCalendar zone) ∧
      ∃ words, List.Forall₂ (fun segment word => segment.piece.Says s (s.shownSeconds zone) word)
          t.segments words ∧
        t.render zone s = .ok words.flatten ∧ t.recognizes words.flatten = true) := by
  simp only [Template.uses_iff]
  rcases renderAll_spec zone s t.segments with ⟨wall, hshow, hall⟩ | ⟨c, hc, hlarge, hall⟩ |
    ⟨hfield, hclock, hall⟩
  · rcases Template.render_of_showable h hshow with ⟨hversion, hmatch⟩
    have hcalendar {shown : Timestamp} (hshown : s.shownTimestamp zone = .ok shown) :
        s.InCalendar zone := (State.wall_seconds_of_shown hshown).2
    refine .inr (.inr ⟨fun c hc => Text.isWritable_iff.1 (hshow _ hc), ?_,
      shownWords s wall t.segments, says_shownWords hshow, hversion, hmatch⟩)
    rintro (hdate | htime)
    · rcases hshow _ hdate with ⟨shown, hshown, -⟩
      exact hcalendar hshown
    · rcases hshow _ htime with ⟨shown, hshown, -⟩
      exact hcalendar hshown
  · refine .inl ⟨c, hc, ?_, Template.render_eq_error_of_renderAll hall⟩
    have hlong : ¬(Text.decimal (s.counter c)).length ≤ Text.digitLimit := by
      rw [← Text.isWritable_iff, hlarge]
      decide
    exact not_le.1 hlong
  · refine .inr (.inl ⟨hfield, ?_, Template.render_eq_error_of_renderAll hall⟩)
    intro hcalendar
    rcases State.exists_shown hcalendar with ⟨shown, hshown⟩
    rw [hshown] at hclock
    cases hclock

/-- A build number, a date and a time of day. In UTC it is the last second of a leap day, and the
clock that is shown is an hour ahead. -/
theorem render_derived_leap : ∃ (s : State) (zone : Zone) (t : Template) (version : List Char),
    s = ⟨0, 0, 70, ⟨⟨63844847999, 5, by decide, by decide⟩, 0⟩, .localTime⟩ ∧ zone = ⟨3600, none⟩ ∧
    Template.compile ['v', '%', 'b', '%', '-', '%', 'd', '%', '%', 't', '%'] none = .ok t ∧
    s.InCalendar zone ∧ t.render zone s = .ok version ∧
    version = ['v', '7', '0', '-', '2', '0', '2', '4', '0', '3', '0', '1',
      '0', '0', '5', '9', '5', '9'] ∧ t.recognizes version = true := by
  obtain ⟨s, zone, t, hstate, hzone, ht, hmode, hversion⟩ :
      ∃ (s : State) (zone : Zone) (t : Template),
      s = ⟨0, 0, 70, ⟨⟨63844847999, 5, by decide, by decide⟩, 0⟩, .localTime⟩ ∧
      zone = ⟨3600, none⟩ ∧
      Template.compile ['v', '%', 'b', '%', '-', '%', 'd', '%', '%', 't', '%'] none = .ok t ∧
      s.mode = .localTime ∧
      shownText s ⟨63844851599, 5, by decide, by decide⟩ t.segments =
        ['v', '7', '0', '-', '2', '0', '2', '4', '0', '3', '0', '1', '0', '0', '5', '9', '5', '9'] :=
    ⟨_, _, _, rfl, rfl, rfl, rfl, by decide⟩
  have hshown : s.shownTimestamp zone =
      .ok ⟨⟨63844851599, 5, by decide, by decide⟩, 3600000000⟩ := by
    rw [State.shownTimestamp, hmode, hstate, hzone]
    exact Zone.localize_eq_ok_iff.2 ⟨by decide, by decide, by decide⟩
  have hcalendar : s.InCalendar zone := (State.wall_seconds_of_shown hshown).2
  have hwritable (c : Counter) : Text.isWritable (s.counter c) = true := by
    rw [hstate]
    exact Text.isWritable_iff.2 (by cases c <;> decide)
  obtain ⟨hrender, -⟩ := Template.render_of_shown ht hwritable hshown
  rcases render_derived ht zone s with
    ⟨c, -, -, herror⟩ | ⟨-, hout, -⟩ | ⟨-, -, words, -, hwords, hmatch⟩
  · rw [hrender] at herror
    cases herror
  · exact absurd hcalendar hout
  · have hsame : words.flatten = _ := Except.ok.inj (hwords.symm.trans hrender)
    exact ⟨s, zone, t, words.flatten, hstate, hzone, ht, hcalendar, hwords, hsame.trans hversion,
      hmatch⟩

end VersionStamp
