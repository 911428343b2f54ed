import VersionStamp.Proofs.Agreement
import VersionStamp.Proofs.NormalForm
import VersionStamp.Proofs.TagOrder

/-! The newest version as a name. Names are read leniently, so what is printed for the newest version
is the form in which the template writes it, and not always the name that it was read from. It is
one of the names just if one of them is in that form. -/

namespace VersionStamp

open Calendar

/-- A word as a field writes it: a counter in its shortest text, the digits of a day of the calendar,
those of a time of day. -/
def Field.IsCanonical : Field → List Char → Prop
  | .counter _, word => Text.IsShortest word
  | .date, word => ∃ w : WallTime, word = w.dateDigits
  | .time, word => ∃ w : WallTime, word = w.timeDigits

theorem Field.isCanonical_shown (s : State) (wall : WallTime) (f : Field) :
    f.IsCanonical ((Piece.field f).shown s wall) := by
  cases f with
  | counter c => exact Text.isShortest_decimal (s.counter c)
  | date => exact ⟨wall, rfl⟩
  | time => exact ⟨wall, rfl⟩

theorem eq_shown_of_mem_zip {s : State} {wall : WallTime} {segments : List Segment}
    {segment : Segment} {word : List Char}
    (h : (segment, word) ∈ segments.zip (shownWords s wall segments)) :
    word = segment.piece.shown s wall := by
  rw [shownWords, ← List.map_prod_left_eq_zip] at h
  rcases List.mem_map.1 h with ⟨_, -, heq⟩
  cases heq
  rfl

/-- Words whose fields are those of a state are the words of the state. -/
theorem Spells.eq_shownWords {s : State} {wall : WallTime} {segments : List Segment}
    {words : List (List Char)} (h : Spells segments words)
    (hshown : ∀ segment word f, (segment, word) ∈ segments.zip words →
      segment.piece = .field f → word = (Piece.field f).shown s wall) :
    words = shownWords s wall segments := by
  induction h with
  | nil => rfl
  | @cons segment word segments words hword hwords ih =>
    have htail : words = shownWords s wall segments := ih fun x w f hmem hpiece =>
      hshown x w f (List.mem_cons_of_mem _ hmem) hpiece
    rw [shownWords, List.map_cons, ← shownWords, ← htail]
    congr 1
    cases hpiece : segment.piece with
    | literal text =>
      rw [hpiece] at hword
      exact hword
    | percent =>
      rw [hpiece] at hword
      exact hword
    | field f => exact hshown segment word f (List.mem_cons_self ..) hpiece

namespace Template

/-- A name as the template writes it, if each field is read from its own word. -/
def IsCanonical (t : Template) (name : List Char) : Prop :=
  ∃ words, Spells t.segments words ∧ words.flatten = name ∧
    ∀ segment word f, (segment, word) ∈ t.segments.zip words → segment.piece = .field f →
      f.IsCanonical word ∧ t.run? name f = some word

theorem IsCanonical.exists_run {t : Template} {name : List Char} (h : t.IsCanonical name) {f : Field}
    (hf : t.uses f = true) : ∃ word, t.run? name f = some word ∧ f.IsCanonical word := by
  rcases h with ⟨words, hw, rfl, hwords⟩
  rcases mem_fieldsOf.1 (uses_iff.1 hf) with ⟨segment, hsegment, hpiece⟩
  obtain ⟨word, hmem⟩ := hw.exists_word hsegment
  obtain ⟨hcanonical, hrun⟩ := hwords segment word f hmem hpiece
  exact ⟨word, hrun, hcanonical⟩

/-- Digits of a date and of a time of day that are canonical are those of the timestamp. -/
theorem IsCanonical.runs_of_assembled {t : Template} {zone : Zone} {name : List Char}
    (h : t.IsCanonical name) (hdate : t.uses .date = true) {timestamp : Timestamp}
    (hread : t.assembled zone .utc name = .ok timestamp) :
    t.run? name .date = some timestamp.wall.dateDigits ∧
      (t.uses .time = true → t.run? name .time = some timestamp.wall.timeDigits) := by
  obtain ⟨_, hrun, w, rfl⟩ := h.exists_run hdate
  rw [assembled, hrun, Option.getD_some] at hread
  by_cases htime : t.uses .time = true
  · obtain ⟨_, hrunTime, v, rfl⟩ := h.exists_run htime
    rw [hrunTime, Option.getD_some, ← w.atTimeOf_dateDigits v, ← w.atTimeOf_timeDigits v,
      assemble_digits] at hread
    cases mapError_eq_ok.1 hread
    refine ⟨hrun.trans (congrArg some (w.atTimeOf_dateDigits v).symm), fun _ => ?_⟩
    exact hrunTime.trans (congrArg some (w.atTimeOf_timeDigits v).symm)
  · have hnone : t.run? name .time = none := if_neg htime
    rw [hnone, Option.getD_none, assemble_dateDigits] at hread
    cases mapError_eq_ok.1 hread
    refine ⟨hrun.trans ?_, fun h => absurd h htime⟩
    simp [WallTime.dateDigits]

theorem ShowsAll.wall_of_showable {t : Template} {zone : Zone} {s : State} {wall : WallTime}
    (h : t.ShowsAll s) (hshow : ∀ f ∈ fieldsOf t.segments, f.Showable zone s wall)
    (hdate : t.uses .date = true) : wall = s.timestamp.wall := by
  obtain ⟨shown, hshown, rfl⟩ := hshow .date (uses_iff.1 hdate)
  rw [h.shownTimestamp_eq hdate] at hshown
  rw [Except.ok.inj hshown]

/-- A canonical name of a state, as far as names show it. A time of day without a date is not read; it
has to be the one that the clock shows. -/
structure Names (t : Template) (zone : Zone) (s : State) (name : List Char) : Prop where
  canonical : t.IsCanonical name
  read : ∃ now p, t.parseAt zone .utc now name = .ok p ∧ p.counters = s.counters ∧
    (t.uses .date = true → p.timestamp = s.timestamp)
  time : t.uses .date = false → t.uses .time = true → ∃ shown,
    s.shownTimestamp zone = .ok shown ∧ t.run? name .time = some shown.wall.timeDigits

section

variable {source : List Char} {t : Template} (hc : compile source none = .ok t) {zone : Zone}
  {s : State} (hall : t.ShowsAll s) {version : List Char} (hv : t.render zone s = .ok version)

include hc hall hv

theorem Names.eq_render {name : List Char} (h : t.Names zone s name) : name = version := by
  obtain ⟨wall, hshow, rfl, -⟩ := render_eq_ok hv
  obtain ⟨now, p, hp, hcounters, hstamp⟩ := h.read
  have hread : t.ReadAs zone .utc now name p := readAs_of_eq_ok hc hp
  obtain ⟨words, hw, rfl, hwords⟩ := h.canonical
  rw [shownText, hw.eq_shownWords]
  intro segment word f hmem hpiece
  obtain ⟨hcanonical, hrun⟩ := hwords segment word f hmem hpiece
  have hf : f ∈ fieldsOf t.segments := mem_fieldsOf.2 ⟨segment, (List.of_mem_zip hmem).1, hpiece⟩
  -- the word is the run of its field, so whatever is known of the run tells the word
  have hrun_eq {text : List Char} (htext : t.run? words.flatten f = some text) : word = text :=
    Option.some.inj (hrun.symm.trans htext)
  have hassembled (hdate : t.uses .date = true) :
      t.assembled zone .utc words.flatten = .ok s.timestamp := by
    rw [← hstamp hdate]
    exact hread.dated hdate
  cases f with
  | counter c =>
    obtain ⟨run, hrun', hvalue⟩ := hread.used c (uses_iff.2 hf)
    obtain rfl := hrun_eq hrun'
    rw [Piece.shown, ← State.counters_eq_iff.1 hcounters c, hvalue,
      Text.IsShortest.decimal_digitsValue hcanonical]
  | date =>
    have hdate : t.uses .date = true := uses_iff.2 hf
    rw [Piece.shown, hall.wall_of_showable hshow hdate]
    exact hrun_eq (h.canonical.runs_of_assembled hdate (hassembled hdate)).1
  | time =>
    have htime : t.uses .time = true := uses_iff.2 hf
    cases hdate : t.uses .date with
    | true =>
      rw [Piece.shown, hall.wall_of_showable hshow hdate]
      exact hrun_eq ((h.canonical.runs_of_assembled hdate (hassembled hdate)).2 htime)
    | false =>
      obtain ⟨shown, hshown, hrun'⟩ := h.time hdate htime
      obtain ⟨shown', hshown', rfl⟩ := hshow .time hf
      rw [hshown] at hshown'
      cases hshown'
      exact hrun_eq hrun'

theorem names_render (hs : Separable t.segments) : t.Names zone s version := by
  obtain ⟨wall, hshow, rfl, -⟩ := render_eq_ok hv
  have hspells : Spells t.segments (shownWords s wall t.segments) :=
    spells_shownWords s wall t.segments
  -- separable: every word is found again as the run of its field
  have hrun {f : Field} (hf : f ∈ fieldsOf t.segments) :
      t.run? (shownText s wall t.segments) f = some ((Piece.field f).shown s wall) := by
    obtain ⟨segment, hsegment, hpiece⟩ := mem_fieldsOf.1 hf
    obtain ⟨word, hmem⟩ := hspells.exists_word hsegment
    rw [← hpiece, ← eq_shown_of_mem_zip hmem]
    exact run?_spelled hc hs hspells hmem hpiece
  refine ⟨⟨_, hspells, rfl, fun segment word f hmem hpiece => ?_⟩, ?_, fun _ htime => ?_⟩
  · have hf : f ∈ fieldsOf t.segments := mem_fieldsOf.2 ⟨segment, (List.of_mem_zip hmem).1, hpiece⟩
    have hword : word = (Piece.field f).shown s wall := hpiece ▸ eq_shown_of_mem_zip hmem
    rw [hword]
    exact ⟨f.isCanonical_shown s wall, hrun hf⟩
  · obtain ⟨timestamp, hstamp, hsame⟩ : ∃ timestamp,
        t.restamp zone .utc s.timestamp wall = .ok timestamp ∧ timestamp = s.timestamp := by
      by_cases hdate : t.uses .date = true
      · exact ⟨_, by rw [hall.wall_of_showable hshow hdate, hall.restamp_eq hdate], rfl⟩
      · exact ⟨_, by rw [restamp, if_neg hdate], rfl⟩
    refine ⟨s.timestamp, _, parseAt_shown hc hs hshow hstamp, ?_, fun _ => hsame⟩
    rw [hall.project_eq]
    rfl
  · obtain ⟨shown, hshown, rfl⟩ := hshow .time (uses_iff.1 htime)
    exact ⟨shown, hshown, hrun (uses_iff.1 htime)⟩

end

theorem newestVersion_eq_some {t : Template} {zone : Zone} {mode : ZoneMode} {clock after : Clock}
    {names : List (List Char)} {v : Version}
    (h : t.newestVersion zone mode clock names = (some v, after)) :
    v.template = t ∧ t.Shown zone mode names v.state := by
  rw [newestVersion_eq, Prod.mk.injEq] at h
  rcases Option.map_eq_some_iff.1 h.1 with ⟨s, hs, rfl⟩
  have hgreatest := t.greatest_newest zone mode clock names
  rw [hs] at hgreatest
  exact ⟨rfl, hgreatest.1⟩

end Template

/-- The newest version was read from one of the names. In UTC it can be printed, unless the clock
cannot show a time of day that has no date with it. What is printed is one of the names if one of them
is a canonical name of the version; with a separable template it is so in no other case. -/
theorem newest_tag_given {source : List Char} {t : Template}
    (hc : Template.compile source none = .ok t) {zone : Zone} {clock after : Clock}
    {names : List (List Char)} {v : Version}
    (h : t.newestVersion zone .utc clock names = (some v, after)) :
    (∃ name ∈ names, t.recognizes name = true ∧
      ∃ now, t.parseAt zone .utc now name = .ok v.state) ∧
    ((t.uses .time = true → t.uses .date = true) → ∃ tag, v.render zone = .ok tag) ∧
    ∀ tag, v.render zone = .ok tag →
      ((∃ name ∈ names, t.Names zone v.state name) → tag ∈ names) ∧
      (Separable t.segments → tag ∈ names → ∃ name ∈ names, t.Names zone v.state name) := by
  obtain ⟨htemplate, hshown⟩ := Template.newestVersion_eq_some h
  have hall : t.ShowsAll v.state := by
    obtain ⟨_, _, _, _, hread⟩ := hshown
    exact (Template.readAs_of_eq_ok hc hread).showsAll
  rw [Version.render, htemplate]
  refine ⟨hshown, fun htime => ?_, fun tag htag => ⟨?_, fun hs hmem => ?_⟩⟩
  · exact ⟨_, hall.render_eq hc htime zone fun _ => rfl⟩
  · rintro ⟨other, hother, hnames⟩
    rwa [← hnames.eq_render hc hall htag]
  · exact ⟨tag, hmem, Template.names_render hc hall htag hs⟩

theorem Template.exists_newest {t : Template} {zone : Zone} {mode : ZoneMode} {clock : Clock}
    {names : List (List Char)} {tag : List Char}
    (h : ((t.newestVersion zone mode clock names).1.bind fun v => (v.render zone).toOption) =
      some tag) :
    ∃ v after, t.newestVersion zone mode clock names = (some v, after) ∧
      v.render zone = .ok tag := by
  rcases Option.bind_eq_some_iff.1 h with ⟨v, hv, hrender⟩
  exact ⟨v, _, Prod.ext hv rfl, toOption_eq_some_iff.1 hrender⟩

/-- A name with a leading zero before the canonical one: the version is read from the first, and
printed as the second. -/
theorem newest_tag_given_second : ∃ t v after,
    Template.compile ['v', '%', 'b', '%', '-', '%', 'd', '%'] none = .ok t ∧
    t.newestVersion .utc .utc ⟨fun _ => ⟨.start, 0⟩, 0⟩
      [['v', '0', '3', '-', '2', '0', '2', '4', '0', '1', '0', '1'],
        ['v', '3', '-', '2', '0', '2', '4', '0', '1', '0', '1']] = (some v, after) ∧
    v.render .utc = .ok ['v', '3', '-', '2', '0', '2', '4', '0', '1', '0', '1'] ∧
    ∃ name ∈ [['v', '0', '3', '-', '2', '0', '2', '4', '0', '1', '0', '1'],
        ['v', '3', '-', '2', '0', '2', '4', '0', '1', '0', '1']],
      t.Names .utc v.state name := by
  obtain ⟨t, ht, hs, htag⟩ : ∃ t,
      Template.compile ['v', '%', 'b', '%', '-', '%', 'd', '%'] none = .ok t ∧
      Separable t.segments ∧
      ((t.newestVersion .utc .utc ⟨fun _ => ⟨.start, 0⟩, 0⟩
        [['v', '0', '3', '-', '2', '0', '2', '4', '0', '1', '0', '1'],
          ['v', '3', '-', '2', '0', '2', '4', '0', '1', '0', '1']]).1.bind
        fun v => (v.render .utc).toOption) =
          some ['v', '3', '-', '2', '0', '2', '4', '0', '1', '0', '1'] :=
    ⟨_, rfl, by decide, by decide +kernel⟩
  obtain ⟨v, after, hnewest, hrender⟩ := Template.exists_newest htag
  exact ⟨t, v, after, ht, hnewest, hrender,
    ((newest_tag_given ht hnewest).2.2 _ hrender).2 hs (by decide)⟩

/-- With the one name `name` the newest version is printed as another one. -/
def Template.Rewrites (source name : List Char) : Prop :=
  ∃ t v after tag, compile source none = .ok t ∧
    t.newestVersion .utc .utc ⟨fun _ => ⟨.start, 0⟩, 0⟩ [name] = (some v, after) ∧
    v.render .utc = .ok tag ∧ tag ∉ [name]

theorem Template.Rewrites.of_eq {source name : List Char} {t : Template} (tag : List Char)
    (hc : compile source none = .ok t) (hne : tag ≠ name)
    (h : ((t.newestVersion .utc .utc ⟨fun _ => ⟨.start, 0⟩, 0⟩ [name]).1.bind
      fun v => (v.render .utc).toOption) = some tag) : Rewrites source name := by
  obtain ⟨v, after, hnewest, hrender⟩ := exists_newest h
  exact ⟨t, v, after, tag, hc, hnewest, hrender, by rwa [List.mem_singleton]⟩

/-- A leading zero, a digit of another script, a month 13, a digit in a literal, a time of day without
a date, and fields that touch. -/
theorem newest_tag_rewritten :
    Template.Rewrites ['v', '%', 'M', '%'] ['v', '0', '1'] ∧
    Template.Rewrites ['v', '%', 'M', '%'] ['v', '٣'] ∧
    Template.Rewrites ['%', 'd', '%'] ['2', '0', '2', '4', '1', '3', '0', '1'] ∧
    Template.Rewrites ['1', '.', '%', 'b', '%'] ['1', '.', '2'] ∧
    Template.Rewrites ['%', 'b', '%', '-', '%', 't', '%'] ['1', '-', '0', '0', '0', '0', '0', '1'] ∧
    Template.Rewrites ['%', 'M', '%', '%', 'm', '%', '-', '9'] ['1', '2', '-', '9'] :=
  ⟨.of_eq ['v', '1'] rfl (by decide) (by decide +kernel),
    .of_eq ['v', '3'] rfl (by decide) (by decide +kernel),
    .of_eq ['2', '0', '2', '5', '0', '1', '0', '1'] rfl (by decide) (by decide +kernel),
    .of_eq ['1', '.', '1'] rfl (by decide) (by decide +kernel),
    .of_eq ['1', '-', '0', '0', '0', '0', '0', '0'] rfl (by decide) (by decide +kernel),
    .of_eq ['1', '2', '9', '-', '9'] rfl (by decide) (by decide +kernel)⟩

end VersionStamp
