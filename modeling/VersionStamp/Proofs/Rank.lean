import VersionStamp.Proofs.Reading

/-! The scan by rank. Fields and runs of digits are each counted from the left, and the field of
every rank is given the run of that rank. The least rank at which this cannot be done decides the
error. So a scan depends on the fields of the template and on as many runs as there are fields; the
rest of the template and of the candidate does not matter. -/

namespace VersionStamp

/-- The segments that are fields, in their order. -/
def fieldSegments (segments : List Segment) : List Segment := segments.filter (·.isField)

theorem fieldsOf_append (before after : List Segment) :
    fieldsOf (before ++ after) = fieldsOf before ++ fieldsOf after := by
  simp [fieldsOf]

theorem length_fieldsOf (segments : List Segment) :
    (fieldsOf segments).length = (fieldSegments segments).length := by
  rw [fieldsOf, fieldSegments, List.length_filterMap_eq_countP, List.countP_eq_length_filter]
  rfl

theorem getElem?_fieldSegments (before after : List Segment) {segment : Segment} {f : Field}
    (hpiece : segment.piece = .field f) :
    (fieldSegments (before ++ segment :: after))[(fieldsOf before).length]? = some segment := by
  have hfield : segment.isField = true := by simp [Segment.isField, hpiece]
  simp [fieldSegments, hfield, length_fieldsOf]

theorem Capture.eq_of_holds {a b : Capture} {run? : Field → Option (List Char)}
    (ha : ∀ f, a.Holds f (run? f)) (hb : ∀ f, b.Holds f (run? f)) : a = b := by
  have hcounter (c : Counter) : a.counter? c = b.counter? c :=
    (ha (.counter c)).trans (hb (.counter c)).symm
  rw [Capture.mk.injEq]
  exact ⟨hcounter .major, hcounter .minor, hcounter .build, (ha .date).trans (hb .date).symm,
    (ha .time).trans (hb .time).symm⟩

namespace Template

/-- What keeps the field of rank `i` from taking the run of rank `i`. -/
def faultAt? (t : Template) (candidate : List Char) (i : Nat) : Option ScanFault :=
  t.fields[i]?.bind fun f => f.fault? (Text.digitRuns candidate)[i]?

theorem eq_of_least {t : Template} {candidate : List Char} {i k : Nat} {fault fault' : ScanFault}
    (hi : t.faultAt? candidate i = some fault) (hleast : ∀ j < i, t.faultAt? candidate j = none)
    (hk : t.faultAt? candidate k = some fault') (hleast' : ∀ j < k, t.faultAt? candidate j = none) :
    i = k := by
  rcases lt_trichotomy i k with hik | rfl | hki
  · rw [hleast' i hik] at hi
    cases hi
  · rfl
  · rw [hleast k hki] at hk
    cases hk

section

variable {source : List Char} {recognizer : Option (List Char)} {t : Template}
  (hc : compile source recognizer = .ok t) {candidate : List Char}

include hc

theorem faultAt?_eq {i : Nat} {f : Field} (hf : t.fields[i]? = some f) :
    t.faultAt? candidate i = f.fault? (t.run? candidate f) := by
  rw [faultAt?, hf, run?_of_rank hc candidate hf]
  rfl

theorem exists_rank {e : ScanError} (h : FirstFault t.segments (t.run? candidate) e) :
    ∃ i segment, (fieldSegments t.segments)[i]? = some segment ∧
      segment.piece = .field e.field ∧ segment.position = e.position ∧
      t.fields[i]? = some e.field ∧ t.faultAt? candidate i = some e.fault ∧
      ∀ j < i, t.faultAt? candidate j = none := by
  rcases h with ⟨before, segment, after, hsegments, hbefore, hpiece, hposition, hfault⟩
  have hfields : t.fields = fieldsOf before ++ e.field :: fieldsOf after := by
    change fieldsOf t.segments = _
    rw [hsegments, fieldsOf_append, fieldsOf_cons_of_some (Segment.field?_eq_some_iff.2 hpiece)]
  have hfield : t.fields[(fieldsOf before).length]? = some e.field := by simp [hfields]
  refine ⟨_, segment, ?_, hpiece, hposition, hfield, ?_, fun j hj => ?_⟩
  · rw [hsegments]
    exact getElem?_fieldSegments before after hpiece
  · rw [faultAt?_eq hc hfield, hfault]
  · have hget : t.fields[j]? = some (fieldsOf before)[j] := by
      simp [hfields, List.getElem?_append_left hj]
    rw [faultAt?_eq hc hget]
    exact hbefore _ (List.getElem_mem hj)

theorem scan_of_faultless (h : ∀ i, t.faultAt? candidate i = none) :
    ∃ capture, t.scan candidate = .ok capture ∧
      (∀ (i : Nat) f, t.fields[i]? = some f → ∃ run, (Text.digitRuns candidate)[i]? = some run ∧
        capture.Holds f (some run)) ∧
      ∀ f, t.uses f = false → capture.Holds f none := by
  rcases scan_spec hc candidate with ⟨capture, hscan, -, hholds⟩ | ⟨e, -, hfirst⟩
  · refine ⟨capture, hscan, fun i f hf => ?_, fun f hf => ?_⟩
    · have hfine := h i
      have hheld := hholds f
      rw [run?_of_rank hc candidate hf] at hheld
      rw [faultAt?, hf] at hfine
      cases hrun : (Text.digitRuns candidate)[i]? with
      | none =>
        rw [hrun] at hfine
        cases f <;> cases hfine
      | some run =>
        rw [hrun] at hheld
        exact ⟨run, rfl, hheld⟩
    · have hheld := hholds f
      rwa [run?, if_neg (by simp [hf])] at hheld
  · obtain ⟨i, -, -, -, -, -, hfault, -⟩ := exists_rank hc hfirst
    rw [h i] at hfault
    cases hfault

/-- The least rank with a fault is reported, at the place of its segment. -/
theorem scan_of_fault {i : Nat} {fault : ScanFault} (h : t.faultAt? candidate i = some fault)
    (hleast : ∀ j < i, t.faultAt? candidate j = none) :
    ∃ segment f, (fieldSegments t.segments)[i]? = some segment ∧ segment.piece = .field f ∧
      t.scan candidate = .error ⟨f, segment.position, fault⟩ := by
  rcases scan_spec hc candidate with ⟨capture, -, hfine, -⟩ | ⟨e, hscan, hfirst⟩
  · cases hf : t.fields[i]? with
    | none => simp [faultAt?, hf] at h
    | some f =>
      rw [faultAt?_eq hc hf, hfine f (uses_iff.2 (List.mem_of_getElem? hf))] at h
      cases h
  · obtain ⟨k, segment, hsegment, hpiece, hposition, -, hfault, hk⟩ := exists_rank hc hfirst
    obtain rfl : i = k := eq_of_least h hleast hfault hk
    rw [h, Option.some.injEq] at hfault
    refine ⟨segment, e.field, hsegment, hpiece, ?_⟩
    rw [hscan, hposition, hfault]

end

section

variable {source source' : List Char} {recognizer recognizer' : Option (List Char)}
  {t t' : Template} {candidate candidate' : List Char} (hfields : t'.fields = t.fields)
  (hruns : (Text.digitRuns candidate').take t.fields.length =
    (Text.digitRuns candidate).take t.fields.length)

include hfields hruns

/-- Of the candidate only the runs that fall to fields matter, and of the template the fields. -/
theorem run?_congr (f : Field) : t'.run? candidate' f = t.run? candidate f := by
  rw [run?, run?, uses, uses, hfields]
  by_cases hf : t.fields.contains f = true
  · have hrank : t.fields.idxOf f < t.fields.length := List.idxOf_lt_length_of_mem (by simpa using hf)
    rw [if_pos hf, if_pos hf, ← List.getElem?_take_of_lt hrank, hruns,
      List.getElem?_take_of_lt hrank]
  · rw [if_neg hf, if_neg hf]

theorem faultAt?_congr (i : Nat) : t'.faultAt? candidate' i = t.faultAt? candidate i := by
  rw [faultAt?, faultAt?, hfields]
  cases hf : t.fields[i]? with
  | none => rfl
  | some f =>
    have hi : i < t.fields.length := (List.getElem?_eq_some_iff.1 hf).1
    rw [← List.getElem?_take_of_lt hi, hruns, List.getElem?_take_of_lt hi]

theorem scan_congr (hc : compile source recognizer = .ok t)
    (hc' : compile source' recognizer' = .ok t') :
    (t'.scan candidate').mapError (fun e => (e.field, e.fault)) =
      (t.scan candidate).mapError fun e => (e.field, e.fault) := by
  have hrun := run?_congr hfields hruns
  have huses (f : Field) : t'.uses f = t.uses f := by rw [uses, uses, hfields]
  rcases scan_spec hc candidate with ⟨capture, hscan, hfine, hholds⟩ | ⟨e, hscan, hfirst⟩
  · rcases scan_spec hc' candidate' with ⟨capture', hscan', -, hholds'⟩ | ⟨e', -, hfirst'⟩
    · have hsame : capture' = capture :=
        Capture.eq_of_holds (fun f => by rw [← hrun f]; exact hholds' f) hholds
      rw [hscan, hscan', hsame]
    · refine absurd (fun f hf => ?_) hfirst'.not_forall
      rw [hrun]
      exact hfine f (huses f ▸ hf)
  · rcases scan_spec hc' candidate' with ⟨capture', -, hfine', -⟩ | ⟨e', hscan', hfirst'⟩
    · refine absurd (fun f hf => ?_) hfirst.not_forall
      rw [← hrun]
      exact hfine' f (huses f ▸ hf)
    · obtain ⟨i, -, -, -, -, hfield, hfault, hleast⟩ := exists_rank hc hfirst
      obtain ⟨k, -, -, -, -, hfield', hfault', hleast'⟩ := exists_rank hc' hfirst'
      rw [faultAt?_congr hfields hruns] at hfault'
      simp only [faultAt?_congr hfields hruns] at hleast'
      rw [hfields] at hfield'
      obtain rfl : i = k := eq_of_least hfault hleast hfault' hleast'
      rw [hfield, Option.some.injEq] at hfield'
      rw [hfault, Option.some.injEq] at hfault'
      rw [hscan, hscan', Except.mapError, Except.mapError, hfield', hfault']

end

end Template

/-- A scan goes by rank. If every field has a run that it can take, each is given the one of its
rank, and nothing is captured for fields that the template does not have. If not, the least rank
that fails is reported at the position of its segment. Nothing but the fields and the runs that fall
to them has an effect. -/
theorem scan_by_rank {source : List Char} {recognizer : Option (List Char)} {t : Template}
    (hc : Template.compile source recognizer = .ok t) (candidate : List Char) :
    ((∀ i, t.faultAt? candidate i = none) → ∃ capture, t.scan candidate = .ok capture ∧
      (∀ (i : Nat) f, t.fields[i]? = some f → ∃ run, (Text.digitRuns candidate)[i]? = some run ∧
        capture.Holds f (some run)) ∧
      ∀ f, t.uses f = false → capture.Holds f none) ∧
    (∀ i fault, t.faultAt? candidate i = some fault →
      (∀ j < i, t.faultAt? candidate j = none) →
      ∃ segment f, (fieldSegments t.segments)[i]? = some segment ∧ segment.piece = .field f ∧
        t.scan candidate = .error ⟨f, segment.position, fault⟩) ∧
    ∀ source' recognizer' t' candidate', Template.compile source' recognizer' = .ok t' →
      t'.fields = t.fields →
      (Text.digitRuns candidate').take t.fields.length =
        (Text.digitRuns candidate).take t.fields.length →
      (t'.scan candidate').mapError (fun e => (e.field, e.fault)) =
        (t.scan candidate).mapError fun e => (e.field, e.fault) :=
  ⟨Template.scan_of_faultless hc, fun _ _ => Template.scan_of_fault hc,
    fun _ _ _ _ hc' hfields hruns => Template.scan_congr hfields hruns hc hc'⟩

/-- A digit in the literal before a percent sign, a leading zero, digits of two scripts, and a run
more than there are fields. -/
theorem scan_by_rank_mixed : ∃ t capture,
    Template.compile ['1', '%', '%', '%', 'b', '%', '-', '%', 'd', '%'] none = .ok t ∧
    t.scan ['x', '0', '٣', 'y', '2', '0', '2', '4', '0', '1', '0', '1', '/', '9'] = .ok capture ∧
    capture.build = some 3 ∧ capture.date = ['2', '0', '2', '4', '0', '1', '0', '1'] ∧
    capture.major = none := by
  obtain ⟨t, ht, hfields, hmajor, hruns⟩ : ∃ t,
      Template.compile ['1', '%', '%', '%', 'b', '%', '-', '%', 'd', '%'] none = .ok t ∧
      t.fields = [.build, .date] ∧ t.uses .major = false ∧
      Text.digitRuns ['x', '0', '٣', 'y', '2', '0', '2', '4', '0', '1', '0', '1', '/', '9'] =
        [['0', '٣'], ['2', '0', '2', '4', '0', '1', '0', '1'], ['9']] :=
    ⟨_, rfl, rfl, rfl, by decide⟩
  obtain ⟨hok, -, -⟩ := scan_by_rank ht
    ['x', '0', '٣', 'y', '2', '0', '2', '4', '0', '1', '0', '1', '/', '9']
  have hfine : ∀ i, t.faultAt?
      ['x', '0', '٣', 'y', '2', '0', '2', '4', '0', '1', '0', '1', '/', '9'] i = none := by
    intro i
    rw [Template.faultAt?, hfields, hruns]
    rcases i with _ | _ | i <;> rfl
  obtain ⟨capture, hscan, hholds, hunused⟩ := hok hfine
  obtain ⟨build, hbuildRun, hbuild⟩ := hholds 0 .build (by rw [hfields]; rfl)
  obtain ⟨date, hdateRun, hdate⟩ := hholds 1 .date (by rw [hfields]; rfl)
  rw [hruns] at hbuildRun hdateRun
  cases hbuildRun
  cases hdateRun
  exact ⟨t, capture, ht, hscan, hbuild, hdate, hunused .major hmajor⟩

end VersionStamp
