import VersionStamp.Proofs.Parse
import VersionStamp.Proofs.Runs
import VersionStamp.Proofs.Template.Grammar

/-! Which candidates are read, and as what. The field of each rank takes the run of digits of that
rank, and the first field that cannot decides the error. Only when all fields are taken is the date
looked at. -/

namespace VersionStamp

open Calendar

/-- What keeps a field from taking the run that falls to it: there is none, or it is too long to be
read as a number. -/
def Field.fault? : Field → Option (List Char) → Option ScanFault
  | _, none => some .missing
  | .counter _, some run =>
    if run.length ≤ Text.digitLimit then none else some (.unreadable (.tooLong run.length))
  | .date, some _ | .time, some _ => none

theorem Field.fault?_counter {c : Counter} {run? : Option (List Char)} :
    (Field.counter c).fault? run? = none ↔
      ∃ run, run? = some run ∧ run.length ≤ Text.digitLimit := by
  cases run? with
  | none => simp [fault?]
  | some run => simp [fault?]

/-- The first segment whose field cannot take its run is the one that an error names. -/
def FirstFault (segments : List Segment) (run? : Field → Option (List Char)) (e : ScanError) :
    Prop :=
  ∃ before segment after, segments = before ++ segment :: after ∧
    (∀ f ∈ fieldsOf before, f.fault? (run? f) = none) ∧
    segment.piece = .field e.field ∧ segment.position = e.position ∧
    e.field.fault? (run? e.field) = some e.fault

theorem FirstFault.not_forall {t : Template} {run? : Field → Option (List Char)} {e : ScanError}
    (h : FirstFault t.segments run? e) :
    ¬∀ f, t.uses f = true → f.fault? (run? f) = none := by
  intro hfine
  rcases h with ⟨before, segment, after, hsegments, -, hpiece, -, hfault⟩
  have huses : t.uses e.field = true :=
    Template.uses_iff.2 (mem_fieldsOf.2 ⟨segment, by simp [hsegments], hpiece⟩)
  rw [hfine _ huses] at hfault
  cases hfault

namespace FirstFault

variable {run? : Field → Option (List Char)} {segment : Segment} {segments : List Segment}

theorem head {f : Field} {fault : ScanFault} (hpiece : segment.piece = .field f)
    (hfault : f.fault? (run? f) = some fault) :
    FirstFault (segment :: segments) run? ⟨f, segment.position, fault⟩ :=
  ⟨[], segment, segments, rfl, by simp [fieldsOf], hpiece, rfl, hfault⟩

/-- The first fault further on is the first of all if the segment before can take its run. -/
theorem cons {e : ScanError} (hhead : ∀ f, segment.field? = some f → f.fault? (run? f) = none)
    (h : FirstFault segments run? e) : FirstFault (segment :: segments) run? e := by
  rcases h with ⟨before, s, after, rfl, hbefore, hs⟩
  refine ⟨segment :: before, s, after, rfl, ?_, hs⟩
  cases hfield : segment.field? with
  | none => rwa [fieldsOf_cons_of_none hfield]
  | some f =>
    rw [fieldsOf_cons_of_some hfield]
    exact List.forall_mem_cons.2 ⟨hhead f hfield, hbefore⟩

end FirstFault

namespace Capture

/-- What was captured for a field is its run, or nothing if there is none. -/
def Holds (capture : Capture) : Field → Option (List Char) → Prop
  | .counter c, run => capture.counter? c = run.map Text.digitsValue
  | .date, run => capture.date = run.getD []
  | .time, run => capture.time = run.getD []

theorem holds_empty (f : Field) : ({} : Capture).Holds f none := by
  rcases f with (_ | _ | _) | _ | _ <;> rfl

/-- A field takes its run and disturbs no other field, or there is a fault. -/
theorem add_cases (capture : Capture) (f : Field) (run : List Char) :
    (∃ after, capture.add f run = .ok after ∧ f.fault? (some run) = none ∧
      after.Holds f (some run) ∧ ∀ g ≠ f, ∀ r, capture.Holds g r → after.Holds g r) ∨
    ∃ e, capture.add f run = .error e ∧ f.fault? (some run) = some (.unreadable e) := by
  cases f with
  | counter c =>
    rw [add, Text.readDigits, Field.fault?]
    by_cases h : run.length ≤ Text.digitLimit
    · rw [if_pos h, if_pos h]
      refine .inl ⟨_, rfl, rfl, by simp [Holds], fun g hg r hr => ?_⟩
      cases g with
      | counter d =>
        have hd : c ≠ d := fun hd => hg (by rw [hd])
        simpa [Holds, hd] using hr
      | date => simpa [Holds] using hr
      | time => simpa [Holds] using hr
    · rw [if_neg h, if_neg h]
      exact .inr ⟨_, rfl, rfl⟩
  | date =>
    refine .inl ⟨_, rfl, rfl, rfl, fun g hg r hr => ?_⟩
    rcases g with (_ | _ | _) | _ | _
    case date => exact absurd rfl hg
    all_goals exact hr
  | time =>
    refine .inl ⟨_, rfl, rfl, rfl, fun g hg r hr => ?_⟩
    rcases g with (_ | _ | _) | _ | _
    case time => exact absurd rfl hg
    all_goals exact hr

end Capture

/-- Where `run?` tells the run of each field by its rank, the fields take their runs, or the first
that cannot is reported. -/
theorem takeRuns_spec {run? : Field → Option (List Char)} {segments : List Segment}
    {runs : List (List Char)} (hrank : ∀ (i : Nat) f, (fieldsOf segments)[i]? = some f →
      run? f = runs[i]?) (capture : Capture) :
    (∃ after, takeRuns segments runs capture = .ok after ∧
      (∀ f ∈ fieldsOf segments, f.fault? (run? f) = none) ∧
      ∀ f, f ∈ fieldsOf segments ∨ capture.Holds f (run? f) → after.Holds f (run? f)) ∨
    ∃ e, takeRuns segments runs capture = .error e ∧ FirstFault segments run? e := by
  induction segments generalizing runs capture with
  | nil => exact .inl ⟨capture, rfl, by simp [fieldsOf], by simp [fieldsOf]⟩
  | cons segment segments ih =>
    rw [takeRuns]
    cases hfield : segment.field? with
    | none =>
      rw [fieldsOf_cons_of_none hfield] at hrank ⊢
      rcases ih hrank capture with h | ⟨e, hrun, he⟩
      · exact .inl h
      · exact .inr ⟨e, hrun, he.cons (by simp [hfield])⟩
    | some f =>
      rw [fieldsOf_cons_of_some hfield] at hrank ⊢
      have hpiece : segment.piece = .field f := Segment.field?_eq_some_iff.1 hfield
      have hf : run? f = runs[0]? := hrank 0 f rfl
      cases runs with
      | nil =>
        refine .inr ⟨_, rfl, .head hpiece ?_⟩
        rw [hf]
        cases f <;> rfl
      | cons run runs =>
        have hf : run? f = some run := hf
        simp only
        rcases capture.add_cases f run with ⟨next, hadd, hfault, hheld, hother⟩ |
          ⟨cause, hadd, hfault⟩
        · rw [hadd]
          rw [← hf] at hfault hheld
          rcases ih (fun i g hg => hrank (i + 1) g hg) next with
            ⟨after, hrun, hfine, hholds⟩ | ⟨e, hrun, he⟩
          · refine .inl ⟨after, hrun, List.forall_mem_cons.2 ⟨hfault, hfine⟩, fun g hg => ?_⟩
            apply hholds
            by_cases hgf : g = f
            · exact .inr (hgf ▸ hheld)
            · rcases hg with hg | hg
              · exact .inl ((List.mem_cons.1 hg).resolve_left hgf)
              · exact .inr (hother g hgf _ hg)
          · exact .inr ⟨e, hrun, he.cons (by simpa [hfield] using hfault)⟩
        · rw [hadd]
          refine .inr ⟨_, rfl, .head hpiece ?_⟩
          rw [hf]
          exact hfault

namespace Template

/-- The run of digits of a candidate that falls to a field: the one that has the rank among the runs
that the field has among the fields. -/
def run? (t : Template) (candidate : List Char) (f : Field) : Option (List Char) :=
  if t.uses f then (Text.digitRuns candidate)[t.fields.idxOf f]? else none

theorem run?_of_rank {source : List Char} {recognizer : Option (List Char)} {t : Template}
    (hc : compile source recognizer = .ok t) (candidate : List Char) {i : Nat} {f : Field}
    (hf : (fieldsOf t.segments)[i]? = some f) :
    t.run? candidate f = (Text.digitRuns candidate)[i]? := by
  obtain ⟨hi, rfl⟩ := List.getElem?_eq_some_iff.1 hf
  rw [run?, if_pos (uses_iff.2 (List.getElem_mem hi))]
  congr 1
  exact (compile_eq_ok_iff.1 hc).nodup_fields.idxOf_getElem i hi

/-- A scan takes for each field the run of its rank, or reports the first field that cannot. -/
theorem scan_spec {source : List Char} {recognizer : Option (List Char)} {t : Template}
    (hc : compile source recognizer = .ok t) (candidate : List Char) :
    (∃ capture, t.scan candidate = .ok capture ∧
      (∀ f, t.uses f = true → f.fault? (t.run? candidate f) = none) ∧
      ∀ f, capture.Holds f (t.run? candidate f)) ∨
    ∃ e, t.scan candidate = .error e ∧ FirstFault t.segments (t.run? candidate) e := by
  rw [scan, scanFrom_eq_takeRuns]
  refine (takeRuns_spec (fun _ _ => run?_of_rank hc candidate) {}).imp_left
    fun ⟨capture, hrun, hfine, hholds⟩ => ?_
  refine ⟨capture, hrun, fun f hf => hfine f (uses_iff.1 hf), fun f => hholds f ?_⟩
  by_cases hf : t.uses f = true
  · exact .inl (uses_iff.1 hf)
  · right
    rw [run?, if_neg hf]
    exact Capture.holds_empty f

/-- The timestamp that the runs of date and time of day make. -/
def assembled (t : Template) (zone : Zone) (mode : ZoneMode) (candidate : List Char) :
    Except AssembleError Timestamp :=
  assemble zone mode ((t.run? candidate .date).getD []) ((t.run? candidate .time).getD [])

/-- What a state that was read has to do with the candidate. -/
structure ReadAs (t : Template) (zone : Zone) (mode : ZoneMode) (now : Timestamp)
    (candidate : List Char) (p : State) : Prop where
  /-- A counter that is shown has the value of its run, wherever the template shows it. -/
  used : ∀ c, t.uses (.counter c) = true → ∃ run, t.run? candidate (.counter c) = some run ∧
    p.counter c = Text.digitsValue run
  unused : ∀ c, t.uses (.counter c) = false → p.counter c = 0
  /-- The state can be announced. -/
  writable : p.isWritable = true
  /-- The counters can be set one after the other, the major number first. -/
  settable : ((State.fresh now mode).setCounter .major p.major >>= fun s =>
    s.setCounter .minor p.minor >>= fun s => s.setCounter .build p.build) =
      .ok { p with timestamp := now }
  mode_eq : p.mode = mode
  dated : t.uses .date = true → t.assembled zone mode candidate = .ok p.timestamp
  undated : t.uses .date = false → p.timestamp = now

section

variable {t : Template} {zone : Zone} {mode : ZoneMode} {now : Timestamp} {candidate : List Char}
  {capture : Capture} {p : State}

theorem timestamp_of_holds (hscan : t.scan candidate = .ok capture)
    (hholds : ∀ f, capture.Holds f (t.run? candidate f)) :
    capture.timestamp zone mode now =
      if t.uses .date then t.assembled zone mode candidate else .ok now := by
  have hdate : capture.date = (t.run? candidate .date).getD [] := hholds .date
  have htime : capture.time = (t.run? candidate .time).getD [] := hholds .time
  rw [Capture.timestamp, assembled, ← hdate, ← htime]
  by_cases huses : t.uses .date = true
  · have hne : capture.date ≠ [] := date_ne_nil_of_scanFrom (.inr (uses_iff.1 huses)) hscan
    rw [if_neg (by simpa using hne), if_pos huses]
  · have hnil : capture.date = [] := by simp [hdate, run?, huses]
    rw [if_pos (by simp [hnil]), if_neg huses]

theorem readAs_of_parseAt (hscan : t.scan candidate = .ok capture)
    (hfine : ∀ f, t.uses f = true → f.fault? (t.run? candidate f) = none)
    (hholds : ∀ f, capture.Holds f (t.run? candidate f))
    (h : t.parseAt zone mode now candidate = .ok p) : t.ReadAs zone mode now candidate p := by
  obtain ⟨capture', hscan', hstamp, hmode, hcounter⟩ := parseAt_eq_ok_iff.1 h
  rw [hscan] at hscan'
  cases hscan'
  rw [timestamp_of_holds hscan hholds] at hstamp
  have hused (c : Counter) (hc : t.uses (.counter c) = true) : ∃ run,
      t.run? candidate (.counter c) = some run ∧ run.length ≤ Text.digitLimit ∧
        p.counter c = Text.digitsValue run := by
    obtain ⟨run, hrun, hlength⟩ := Field.fault?_counter.1 (hfine _ hc)
    have hheld : capture.counter? c = (t.run? candidate (.counter c)).map Text.digitsValue :=
      hholds (.counter c)
    exact ⟨run, hrun, hlength, by rw [hcounter, hheld, hrun]; rfl⟩
  have hunused (c : Counter) (hc : t.uses (.counter c) = false) : p.counter c = 0 :=
    counter_of_parseAt h hc
  have hwritable (c : Counter) : Text.isWritable (p.counter c) = true := by
    cases hc : t.uses (.counter c) with
    | true =>
      obtain ⟨run, -, hlength, hvalue⟩ := hused c hc
      rw [hvalue]
      exact Text.isWritable_digitsValue hlength
    | false =>
      rw [hunused c hc]
      exact Text.isWritable_iff.2 (by decide)
  refine ⟨fun c hc => ?_, hunused, ?_, ?_, hmode, fun hdate => ?_, fun hdate => ?_⟩
  · obtain ⟨run, hrun, -, hvalue⟩ := hused c hc
    exact ⟨run, hrun, hvalue⟩
  · exact State.isWritable_iff.2 hwritable
  · rw [← hmode]
    exact State.setCounters_fresh now p.mode p.minor p.build (hwritable .major)
  · simpa [hdate] using hstamp
  · simpa [hdate] using hstamp.symm

/-- A candidate is read, or one of its fields cannot be taken, or only its date cannot be made. -/
theorem parseAt_cases {source : List Char} {recognizer : Option (List Char)}
    (hc : compile source recognizer = .ok t) (zone : Zone) (mode : ZoneMode) (now : Timestamp)
    (candidate : List Char) :
    (∃ cause, FirstFault t.segments (t.run? candidate) cause ∧
      t.parseAt zone mode now candidate = .error (.field cause t.source)) ∨
    (∀ f, t.uses f = true → f.fault? (t.run? candidate f) = none) ∧
      ((∃ cause, t.uses .date = true ∧ t.assembled zone mode candidate = .error cause ∧
        t.parseAt zone mode now candidate = .error (.date t.source)) ∨
      ∃ p, (t.uses .date = true → ∃ timestamp, t.assembled zone mode candidate = .ok timestamp) ∧
        t.parseAt zone mode now candidate = .ok p ∧ t.ReadAs zone mode now candidate p) := by
  rcases scan_spec hc candidate with ⟨capture, hscan, hfine, hholds⟩ | ⟨cause, hscan, hfirst⟩
  · refine .inr ⟨hfine, ?_⟩
    have hstamp : capture.timestamp zone mode now =
        if t.uses .date then t.assembled zone mode candidate else .ok now :=
      timestamp_of_holds hscan hholds
    cases htimestamp : capture.timestamp zone mode now with
    | error cause =>
      rw [htimestamp] at hstamp
      left
      by_cases hdate : t.uses .date = true
      · rw [if_pos hdate] at hstamp
        exact ⟨cause, hdate, hstamp.symm, by simp only [parseAt, hscan, htimestamp]⟩
      · rw [if_neg hdate] at hstamp
        cases hstamp
    | ok timestamp =>
      rw [htimestamp] at hstamp
      right
      have hparse : ∃ p, t.parseAt zone mode now candidate = .ok p :=
        ⟨_, by simp only [parseAt, hscan, htimestamp]; rfl⟩
      rcases hparse with ⟨p, hparse⟩
      refine ⟨p, fun hdate => ?_, hparse, readAs_of_parseAt hscan hfine hholds hparse⟩
      rw [if_pos hdate] at hstamp
      exact ⟨timestamp, hstamp.symm⟩
  · exact .inl ⟨cause, hfirst, by simp only [parseAt, hscan]⟩

theorem readAs_of_eq_ok {source : List Char} {recognizer : Option (List Char)}
    (hc : compile source recognizer = .ok t) (h : t.parseAt zone mode now candidate = .ok p) :
    t.ReadAs zone mode now candidate p := by
  rcases parseAt_cases hc zone mode now candidate with
    ⟨_, -, hparse⟩ | ⟨-, ⟨_, -, -, hparse⟩ | ⟨p', -, hparse, hp'⟩⟩
  all_goals
    rw [hparse] at h
    cases h
  exact hp'

theorem exists_parseAt_of_undated {source : List Char} {recognizer : Option (List Char)}
    (hc : compile source recognizer = .ok t) (hdate : t.uses .date = false)
    (hfine : ∀ f, t.uses f = true → f.fault? (t.run? candidate f) = none) :
    ∃ p, t.parseAt zone mode now candidate = .ok p := by
  rcases parseAt_cases hc zone mode now candidate with
    ⟨_, hfirst, -⟩ | ⟨-, ⟨_, hdated, -⟩ | ⟨p, -, hparse, -⟩⟩
  · exact absurd hfine hfirst.not_forall
  · rw [hdate] at hdated
    cases hdated
  · exact ⟨p, hparse⟩

end

end Template

/-- Reading a candidate takes one reading of the clock. It succeeds just when every field can take
its run and the date, where there is one, can be made; then the state is the one that the runs say.
An error is about the first field that cannot take its run, and about the date only where every
field can. -/
theorem parse_outcome {source : List Char} {recognizer : Option (List Char)} {t : Template}
    (hc : Template.compile source recognizer = .ok t) (zone : Zone) (mode : ZoneMode)
    (clock : Clock) (candidate : List Char) :
    ∃ outcome, t.parse zone mode clock candidate = (outcome, clock.read.2) ∧
      ((∃ p, outcome = .ok p) ↔
        (∀ f, t.uses f = true → f.fault? (t.run? candidate f) = none) ∧
        (t.uses .date = true → ∃ timestamp,
          t.assembled zone mode candidate = .ok timestamp)) ∧
      (∀ p, outcome = .ok p → t.ReadAs zone mode clock.read.1 candidate p) ∧
      ∀ e, outcome = .error e →
        (∃ cause, FirstFault t.segments (t.run? candidate) cause ∧ e = .field cause t.source ∧
          e.position = cause.position) ∨
        ((∀ f, t.uses f = true → f.fault? (t.run? candidate f) = none) ∧ t.uses .date = true ∧
          (∃ cause, t.assembled zone mode candidate = .error cause) ∧ e = .date t.source ∧
          e.position = 0) := by
  refine ⟨_, rfl, ?_⟩
  rcases Template.parseAt_cases hc zone mode clock.read.1 candidate with
    ⟨cause, hfirst, hparse⟩ | ⟨hfine, ⟨cause, hdate, hassembled, hparse⟩ | ⟨p, hdate, hparse, hp⟩⟩
  · simp only [hparse, reduceCtorEq, exists_false, false_iff, false_implies, implies_true, true_and]
    constructor
    · rintro ⟨hfine, -⟩
      exact hfirst.not_forall hfine
    · rintro e ⟨⟩
      exact .inl ⟨cause, hfirst, rfl, rfl⟩
  · simp only [hparse, reduceCtorEq, exists_false, false_iff, false_implies, implies_true, true_and]
    constructor
    · rintro ⟨-, hmade⟩
      rcases hmade hdate with ⟨timestamp, htimestamp⟩
      rw [hassembled] at htimestamp
      cases htimestamp
    · rintro e ⟨⟩
      exact .inr ⟨hfine, hdate, ⟨cause, hassembled⟩, rfl, rfl⟩
  · simp only [hparse, reduceCtorEq, false_implies, implies_true, and_true]
    constructor
    · exact ⟨fun _ => ⟨hfine, hdate⟩, fun _ => ⟨p, rfl⟩⟩
    · rintro _ ⟨⟩
      exact hp

/-- The minor number before the major one, in digits of two scripts, and a date in month 13. -/
theorem parse_outcome_swapped : ∃ t p,
    Template.compile ['%', 'm', '%', '.', '%', 'M', '%', '-', '%', 'd', '%'] none = .ok t ∧
    t.parse ⟨3600, none⟩ .localTime (.ofSteps ⟨.start, 0⟩ 1)
      ['v', '٣', '.', '0', '0', '7', '-', '2', '0', '2', '4', '1', '3', '0', '1'] =
        (.ok p, (Clock.ofSteps ⟨.start, 0⟩ 1).read.2) ∧
    p.major = 7 ∧ p.minor = 3 ∧ p.build = 0 ∧ p.mode = .localTime := by
  obtain ⟨t, ht, hmajor, hminor, hbuild, htime, hruns, hdate⟩ : ∃ t,
      Template.compile ['%', 'm', '%', '.', '%', 'M', '%', '-', '%', 'd', '%'] none = .ok t ∧
      t.uses .major = true ∧ t.uses .minor = true ∧ t.uses .build = false ∧
      t.uses .time = false ∧
      (t.run? ['v', '٣', '.', '0', '0', '7', '-', '2', '0', '2', '4', '1', '3', '0', '1'] .minor =
          some ['٣'] ∧
        t.run? ['v', '٣', '.', '0', '0', '7', '-', '2', '0', '2', '4', '1', '3', '0', '1'] .major =
          some ['0', '0', '7'] ∧
        t.run? ['v', '٣', '.', '0', '0', '7', '-', '2', '0', '2', '4', '1', '3', '0', '1'] .date =
          some ['2', '0', '2', '4', '1', '3', '0', '1']) ∧
      ∃ timestamp, t.assembled ⟨3600, none⟩ .localTime
        ['v', '٣', '.', '0', '0', '7', '-', '2', '0', '2', '4', '1', '3', '0', '1'] =
          .ok timestamp :=
    ⟨_, rfl, rfl, rfl, rfl, rfl, by decide, _, rfl⟩
  rcases hruns with ⟨hrunMinor, hrunMajor, hrunDate⟩
  obtain ⟨outcome, hparse, hok, hread, -⟩ := parse_outcome ht ⟨3600, none⟩ .localTime
    (.ofSteps ⟨.start, 0⟩ 1)
    ['v', '٣', '.', '0', '0', '7', '-', '2', '0', '2', '4', '1', '3', '0', '1']
  obtain ⟨p, rfl⟩ : ∃ p, outcome = .ok p := by
    refine hok.2 ⟨fun f hf => ?_, fun _ => hdate⟩
    rcases f with (_ | _ | _) | _ | _
    · rw [hrunMajor]
      rfl
    · rw [hrunMinor]
      rfl
    · rw [hbuild] at hf
      cases hf
    · rw [hrunDate]
      rfl
    · rw [htime] at hf
      cases hf
  have hp := hread p rfl
  refine ⟨t, p, ht, hparse, ?_, ?_, hp.unused .build hbuild, hp.mode_eq⟩
  · obtain ⟨run, hrun, hvalue⟩ := hp.used .major hmajor
    rw [hrunMajor] at hrun
    cases hrun
    exact hvalue
  · obtain ⟨run, hrun, hvalue⟩ := hp.used .minor hminor
    rw [hrunMinor] at hrun
    cases hrun
    exact hvalue

end VersionStamp
