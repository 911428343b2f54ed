import VersionStamp.Command.Run
import VersionStamp.Proofs.Failure
import VersionStamp.Proofs.Reading
import VersionStamp.Proofs.Render

/-! The version after the one that a candidate shows. Reading takes numerals of up to so many digits, and
the number after the greatest of them has one digit more. So every candidate that can be read has a
successor, but for those that show the greatest number in the finest counter. -/

namespace VersionStamp

open Calendar

/-- The finest counter in use is shown as the greatest number that can be read: nines as long as a
numeral may be, of whatever script. -/
def Template.ShowsGreatest (t : Template) (candidate : List Char) : Prop :=
  ∃ c run, finestCounter (fun c => t.uses (.counter c)) = some c ∧
    t.run? candidate (.counter c) = some run ∧ run.length = Text.digitLimit ∧
      ∀ d ∈ run, Text.digitValue d = 9

section

variable {source : List Char} {recognizer : Option (List Char)} {t : Template} {zone : Zone}
  {mode : ZoneMode} {now later : Timestamp} {candidate : List Char} {p : State}

/-- A counter that is shown is the greatest that can be read just if its run is all nines. -/
theorem Template.counter_succ_eq_pow_iff (hc : Template.compile source recognizer = .ok t)
    (hp : t.parseAt zone mode now candidate = .ok p) {c : Counter}
    (huses : t.uses (.counter c) = true) : p.counter c + 1 = Nat.pow 10 Text.digitLimit ↔
      ∃ run, t.run? candidate (.counter c) = some run ∧ run.length = Text.digitLimit ∧
        ∀ d ∈ run, Text.digitValue d = 9 := by
  rcases Template.parseAt_cases hc zone mode now candidate with
    ⟨_, -, hparse⟩ | ⟨hfine, -⟩
  · rw [hparse] at hp
    cases hp
  · obtain ⟨run, hrun, hlength⟩ := Field.fault?_counter.1 (hfine _ huses)
    obtain ⟨run', hrun', hvalue⟩ := (Template.readAs_of_eq_ok hc hp).used c huses
    rw [hrun, Option.some.injEq] at hrun'
    rw [hvalue, ← hrun', Text.digitsValue_succ_eq_pow_iff hlength, hrun]
    simp

/-- The state after an advance can be announced unless the greatest number was shown. -/
theorem Template.isWritable_advance_iff (hc : Template.compile source recognizer = .ok t)
    (hp : t.parseAt zone mode now candidate = .ok p) (later : Timestamp) :
    (p.advance (finestCounter fun c => t.uses (.counter c)) later).isWritable = true ↔
      ¬t.ShowsGreatest candidate := by
  have hread := State.isWritable_iff.1 (Template.readAs_of_eq_ok hc hp).writable
  cases hfinest : finestCounter fun c => t.uses (.counter c) with
  | none =>
    have hwritable : (p.advance none later).isWritable = true := State.isWritable_iff.2 hread
    simp [ShowsGreatest, hfinest, hwritable]
  | some c =>
    have huses : t.uses (.counter c) = true := uses_of_finestCounter hfinest
    have hgreatest : t.ShowsGreatest candidate ↔
        p.counter c + 1 = Nat.pow 10 Text.digitLimit := by
      rw [Template.counter_succ_eq_pow_iff hc hp huses, ShowsGreatest]
      simp [hfinest]
    have hzero : Text.isWritable 0 = true := Text.isWritable_iff.2 (by decide)
    rw [hgreatest, State.isWritable_iff]
    simp only [Text.isWritable, decide_eq_true_eq, State.advance, State.counter_increment]
      at hread hzero ⊢
    -- all counters could be written before, and the finest alone has grown
    constructor
    · intro hwritable
      have hnext := hwritable c
      rw [if_pos rfl] at hnext
      exact hnext.ne
    · intro hne d
      split_ifs with hd
      · rw [hd]
        exact Nat.lt_of_le_of_ne (hread c) hne
      · exact hzero
      · exact hread d

end

section

variable {source : List Char} {t : Template} (hc : Template.compile source none = .ok t)
  {zone : Zone} {now later : Timestamp} {candidate : List Char} {p : State}
  (hp : t.parseAt zone .utc now candidate = .ok p) {shown : Timestamp}
  (hlater : later.toUtc = .ok shown)

include hc hp hlater

theorem Template.shownTimestamp_advance : (p.advance (finestCounter fun c => t.uses (.counter c))
    later).shownTimestamp zone = .ok shown := by
  rw [State.shownTimestamp, State.mode_advance, State.timestamp_advance,
    (Template.readAs_of_eq_ok hc hp).mode_eq]
  exact hlater

theorem Template.render_advance (h : ¬t.ShowsGreatest candidate) : ∃ text,
    t.render zone (p.advance (finestCounter fun c => t.uses (.counter c)) later) = .ok text ∧
      t.recognizes text = true := by
  have hwritable := State.isWritable_iff.1 ((Template.isWritable_advance_iff hc hp later).2 h)
  exact ⟨_, Template.render_of_shown hc hwritable (Template.shownTimestamp_advance hc hp hlater)⟩

theorem Template.render_advance_of_greatest (h : t.ShowsGreatest candidate) :
    t.render zone (p.advance (finestCounter fun c => t.uses (.counter c)) later) =
      .error (.numeral .tooLarge) := by
  have hclock := Template.shownTimestamp_advance hc hp hlater
  rcases renderAll_spec zone (p.advance (finestCounter fun c => t.uses (.counter c)) later)
    t.segments with ⟨wall, hshow, -⟩ | ⟨c, -, -, hrender⟩ | ⟨-, hfail, -⟩
  · obtain ⟨c, run, hfinest, hrun⟩ := h
    have huses : t.uses (.counter c) = true := uses_of_finestCounter hfinest
    have hwritable := hshow (.counter c) (Template.uses_iff.1 huses)
    rw [Field.Showable, hfinest, State.advance, State.counter_increment, if_pos rfl,
      (Template.counter_succ_eq_pow_iff hc hp huses).2 ⟨run, hrun⟩] at hwritable
    exact absurd (of_decide_eq_true hwritable) (lt_irrefl _)
  · exact Template.render_eq_error_of_renderAll hrender
  · rw [hclock] at hfail
    cases hfail

end

theorem Template.parse_eq_of_fst {t : Template} {zone : Zone} {mode : ZoneMode} {clock : Clock}
    {candidate : List Char} {p : State} (h : (t.parse zone mode clock candidate).1 = .ok p) :
    t.parse zone mode clock candidate = (.ok p, clock.read.2) := Prod.ext h rfl

namespace Command

variable {around : Surroundings} {source : List Char} {t : Template} {mode : ZoneMode}
  {candidate : List Char} {p : State} (hc : Template.compile source none = .ok t)
  (hp : (t.parse around.zone mode around.clock candidate).1 = .ok p)

include hc

theorem compile_text : Choices.compile ⟨.text (String.ofList source), none, mode⟩ = .ok t := by
  simp [Choices.compile, hc, attempt, Except.mapError]

include hp

theorem runBump_auto :
    runBump around ⟨.text (String.ofList source), none, mode⟩ candidate .auto none =
      (insist (Version.advance ⟨t, p⟩ around.clock.read.2).1.2).bind fun _ =>
        (insist ((Version.advance ⟨t, p⟩ around.clock.read.2).1.1.render around.zone)).map line := by
  have hread : readVersion around ⟨.text (String.ofList source), none, mode⟩ candidate =
      .ok (⟨t, p⟩, around.clock.read.2) := by
    simp [readVersion, compile_text hc, Template.parse_eq_of_fst hp, attempt, Except.mapError,
      bind, Except.bind, pure, Except.pure]
  -- an advance that fails leaves nothing to be written
  simp only [runBump, hread, advancePart, bind, Except.bind, pure, Except.pure]
  rcases Version.advance ⟨t, p⟩ around.clock.read.2 with ⟨⟨after, _ | _⟩, clock⟩
  · rfl
  · simp only [Except.map, insist, Except.mapError]

/-- For a single tag that matches, the version after the latest is found by a bump of the tag. -/
theorem runLatest_singleton (hmatch : t.recognizes candidate = true) :
    runLatest around ⟨.text (String.ofList source), none, mode⟩ [candidate] true =
      runBump around ⟨.text (String.ofList source), none, mode⟩ candidate .auto none := by
  have hnewest : t.newestVersion around.zone mode around.clock [candidate] =
      (some ⟨t, p⟩, around.clock.read.2) := by
    simp [Template.newestVersion, Template.recognized, hmatch, Template.newestOf,
      Template.parse_eq_of_fst hp, Template.newer]
  rw [runBump_auto hc hp]
  simp only [runLatest, List.isEmpty_cons, Bool.false_eq_true, if_false, if_true, compile_text hc,
    Template.followingVersion, hnewest, bind, Except.bind, pure, Except.pure]
  rcases Version.advance ⟨t, p⟩ around.clock.read.2 with ⟨⟨after, _ | _⟩, clock⟩
  · rfl
  · simp only [Except.map, insist, Except.mapError]

end Command

/-- A candidate that was read in UTC has a successor that is written and recognized, unless it shows
the greatest number in the finest counter in use. Then advancing fails, and so would writing, and a
bump ends the program. Of a tag that matches, the next version is found in the same way. -/
theorem bump_outcome {around : Command.Surroundings} {source : List Char} {t : Template}
    (hc : Template.compile source none = .ok t) {candidate : List Char} {p : State}
    (hp : (t.parse around.zone .utc around.clock candidate).1 = .ok p)
    (hclock : ∃ shown, around.clock.read.2.read.1.toUtc = .ok shown) :
    (¬t.ShowsGreatest candidate → ∃ c text,
      (Version.advance ⟨t, p⟩ around.clock.read.2).1.2 = .ok c ∧
      (Version.advance ⟨t, p⟩ around.clock.read.2).1.1.render around.zone = .ok text ∧
      t.recognizes text = true ∧
      Command.runBump around ⟨.text (String.ofList source), none, .utc⟩ candidate .auto none =
        .ok (Command.line text)) ∧
    (t.ShowsGreatest candidate →
      (Version.advance ⟨t, p⟩ around.clock.read.2).1.2 = .error (.numeral .tooLarge) ∧
      (Version.advance ⟨t, p⟩ around.clock.read.2).1.1.render around.zone =
        .error (.numeral .tooLarge) ∧
      Command.runBump around ⟨.text (String.ofList source), none, .utc⟩ candidate .auto none =
        .error (.crashed (.version (.numeral .tooLarge)))) ∧
    (t.recognizes candidate = true →
      Command.runLatest around ⟨.text (String.ofList source), none, .utc⟩ [candidate] true =
        Command.runBump around ⟨.text (String.ofList source), none, .utc⟩ candidate .auto none) := by
  rcases hclock with ⟨shown, hshown⟩
  have hwritable := Template.isWritable_advance_iff hc hp around.clock.read.2.read.1
  rw [← and_assoc]
  refine ⟨?_, Command.runLatest_singleton hc hp⟩
  rw [Command.runBump_auto hc hp, Version.advance_eq]
  constructor
  · intro h
    obtain ⟨text, hrender, hmatch⟩ := Template.render_advance hc hp hshown h
    rw [if_pos (hwritable.2 h)]
    refine ⟨_, text, rfl, hrender, hmatch, ?_⟩
    rw [Version.render, hrender]
    rfl
  · intro h
    rw [if_neg (hwritable.not.2 (not_not.2 h))]
    exact ⟨rfl, Template.render_advance_of_greatest hc hp hshown h, rfl⟩

/-- The greatest number that can be read, alone: it is read, and the bump that follows ends the
program. -/
theorem bump_outcome_nines : ∃ around t p,
    Template.compile ['%', 'b', '%'] none = .ok t ∧
    (t.parse around.zone .utc around.clock (List.replicate Text.digitLimit '9')).1 = .ok p ∧
    (∃ shown, around.clock.read.2.read.1.toUtc = .ok shown) ∧
    Command.runBump around ⟨.text (String.ofList ['%', 'b', '%']), none, .utc⟩
      (List.replicate Text.digitLimit '9') .auto none =
        .error (.crashed (.version (.numeral .tooLarge))) := by
  obtain ⟨around, hclock⟩ : ∃ around : Command.Surroundings,
      ∃ shown, around.clock.read.2.read.1.toUtc = .ok shown :=
    ⟨⟨{}, .utc, .ofSteps ⟨.start, 0⟩ 1, fun _ => .missing, []⟩, _, rfl⟩
  obtain ⟨t, hc, hfields⟩ : ∃ t, Template.compile ['%', 'b', '%'] none = .ok t ∧
      t.fields = [.counter .build] := ⟨_, rfl, rfl⟩
  have huses (f : Field) : t.uses f = true ↔ f = .build := by
    rw [Template.uses, hfields]
    simp
  have hnines : ∀ d ∈ List.replicate Text.digitLimit '9', d = '9' :=
    fun _ => List.eq_of_mem_replicate
  have hruns : Text.digitRuns (List.replicate Text.digitLimit '9') =
      [List.replicate Text.digitLimit '9'] := by
    have hdigits : Text.AllDigits (List.replicate Text.digitLimit '9') := by
      intro d hd
      rw [hnines d hd]
      decide
    have hne : List.replicate Text.digitLimit '9' ≠ [] := by
      rw [Ne, List.replicate_eq_nil_iff]
      decide
    have hrest : OpensWithoutDigit [] := by simp [OpensWithoutDigit]
    have hsplit := Text.digitRuns_append hne hdigits hrest
    rwa [List.append_nil, Text.digitRuns_nil] at hsplit
  have hrun : t.run? (List.replicate Text.digitLimit '9') .build =
      some (List.replicate Text.digitLimit '9') := by
    rw [Template.run?, if_pos ((huses _).2 rfl), hruns, hfields]
    rfl
  obtain ⟨p, hp⟩ : ∃ p,
      (t.parse around.zone .utc around.clock (List.replicate Text.digitLimit '9')).1 = .ok p := by
    apply Template.exists_parseAt_of_undated hc
    · rw [← Bool.not_eq_true, huses]
      decide
    · intro f hf
      rw [(huses f).1 hf]
      exact Field.fault?_counter.2 ⟨_, hrun, List.length_replicate.le⟩
  refine ⟨around, t, p, hc, hp, hclock, ((bump_outcome hc hp hclock).2.1 ?_).2.2⟩
  refine ⟨.build, _, ?_, hrun, List.length_replicate, ?_⟩
  · exact finestCounter_eq_build_iff.2 ((huses _).2 rfl)
  · intro d hd
    rw [hnines d hd]
    decide

end VersionStamp
