import VersionStamp.Proofs.Runs
import VersionStamp.Proofs.Template.Recognizer
import VersionStamp.Proofs.Template.Separable

/-! Scanning a version string. In a text that spells the segments of a separable template the runs of
digits, as far as there are fields, are the words of the fields, so the scan takes for each field
exactly its word. -/

namespace VersionStamp

/-- Takes words for segments, one for each. -/
def takeWords : List Segment → List (List Char) → Capture → Except ScanError Capture
  | segment :: segments, word :: words, capture =>
    match segment.field? with
    | none => takeWords segments words capture
    | some f =>
      match capture.add f word with
      | .error e => .error ⟨f, segment.position, .unreadable e⟩
      | .ok capture => takeWords segments words capture
  | _, _, capture => .ok capture

/-- The fields of segments, each with its word. -/
def fieldWords (segments : List Segment) (words : List (List Char)) : List (Field × List Char) :=
  (segments.zip words).filterMap fun (segment, word) => segment.field?.map (·, word)

theorem fieldWords_cons_of_none {segment : Segment} (h : segment.field? = none)
    (segments : List Segment) (word : List Char) (words : List (List Char)) :
    fieldWords (segment :: segments) (word :: words) = fieldWords segments words := by
  simp [fieldWords, h]

theorem fieldWords_cons_of_some {segment : Segment} {f : Field} (h : segment.field? = some f)
    (segments : List Segment) (word : List Char) (words : List (List Char)) :
    fieldWords (segment :: segments) (word :: words) = (f, word) :: fieldWords segments words := by
  simp [fieldWords, h]

theorem Piece.Shows.isDigit_eq_false {p : Piece} {word : List Char} (h : p.Shows word)
    (hp : p.isField = false) (hfree : p.isDigitFree = true) :
    ∀ c ∈ word, Text.isDigit c = false := by
  cases p with
  | literal text =>
    rw [show word = text from h]
    simpa [isDigitFree] using hfree
  | percent =>
    rw [show word = ['%'] from h]
    intro c hc
    rw [List.mem_singleton.1 hc]
    decide
  | field f => cases hp

theorem Spells.opensWithoutDigit {segments : List Segment} {words : List (List Char)}
    (h : Spells segments words) (hne : ∀ s ∈ segments, s.piece ≠ .literal [])
    (hopen : ∀ next ∈ segments.head?, next.piece.opensWithDigit = false) :
    OpensWithoutDigit words.flatten := by
  cases h with
  | nil => simp [OpensWithoutDigit]
  | @cons next word segments words hword hwords =>
    have hnext := hopen next rfl
    intro c hc
    rw [List.flatten_cons] at hc
    cases hp : next.piece with
    | literal text =>
      rw [hp] at hnext hword
      obtain rfl : word = text := hword
      cases word with
      | nil => exact absurd hp (hne next (by simp))
      | cons d word =>
        obtain rfl : d = c := by simpa using hc
        simpa [Piece.opensWithDigit] using hnext
    | percent =>
      rw [hp] at hword
      obtain rfl : word = ['%'] := hword
      obtain rfl : '%' = c := by simpa using hc
      decide
    | field f =>
      rw [hp] at hnext
      cases hnext

/-- The runs of digits and the words agree. What was passed over before the first field holds no
digit, unless no field is left. -/
theorem fieldWords_eq_zip {segments : List Segment} {words : List (List Char)}
    (hs : Separable segments) (hne : ∀ s ∈ segments, s.piece ≠ .literal [])
    (hw : Spells segments words) (skipped : List Char)
    (hskipped : (∃ s ∈ segments, s.isField = true) → ∀ c ∈ skipped, Text.isDigit c = false) :
    fieldWords segments words =
      (fieldsOf segments).zip (Text.digitRuns (skipped ++ words.flatten)) := by
  induction hw generalizing skipped with
  | nil => rfl
  | @cons segment word segments words hword hwords ih =>
    rcases separable_cons_iff.1 hs with ⟨hrest, hfree, hclosed⟩
    rcases List.forall_mem_cons.1 hne with ⟨-, hne⟩
    cases hfield : segment.field? with
    | none =>
      have hnotField : segment.piece.isField = false := Segment.field?_eq_none_iff.1 hfield
      rw [fieldWords_cons_of_none hfield, fieldsOf_cons_of_none hfield, List.flatten_cons,
        ← List.append_assoc]
      refine ih hrest hne (skipped ++ word) fun hlater c hc => ?_
      rcases List.mem_append.1 hc with hc | hc
      · rcases hlater with ⟨s, hmem, hs'⟩
        exact hskipped ⟨s, List.mem_cons_of_mem _ hmem, hs'⟩ c hc
      · exact hword.isDigit_eq_false hnotField (hfree hlater) c hc
    | some f =>
      have hpiece : segment.piece = .field f := Segment.field?_eq_some_iff.1 hfield
      have hisField : segment.isField = true := by simp [Segment.isField, hpiece]
      rw [hpiece] at hword
      rcases hword with ⟨hnonempty, hdigits⟩
      have hskip := hskipped ⟨segment, by simp, hisField⟩
      have hopen : OpensWithoutDigit words.flatten :=
        Spells.opensWithoutDigit hwords hne (hclosed hisField)
      rw [fieldWords_cons_of_some hfield, fieldsOf_cons_of_some hfield, List.flatten_cons,
        Text.digitRuns_skip hskip, Text.digitRuns_append hnonempty hdigits hopen,
        List.zip_cons_cons, ih hrest hne [] fun _ c hc => by cases hc]
      rfl

theorem takeRuns_eq_takeWords {segments : List Segment} {words runs : List (List Char)}
    (hw : Spells segments words) (h : fieldWords segments words = (fieldsOf segments).zip runs)
    (capture : Capture) : takeRuns segments runs capture = takeWords segments words capture := by
  induction hw generalizing runs capture with
  | nil => rfl
  | @cons segment word segments words hword hwords ih =>
    rw [takeRuns, takeWords]
    cases hfield : segment.field? with
    | none =>
      rw [fieldWords_cons_of_none hfield, fieldsOf_cons_of_none hfield] at h
      exact ih h capture
    | some f =>
      rw [fieldWords_cons_of_some hfield, fieldsOf_cons_of_some hfield] at h
      cases runs with
      | nil => simp at h
      | cons run runs =>
        rw [List.zip_cons_cons, List.cons.injEq, Prod.mk.injEq] at h
        rcases h with ⟨⟨-, rfl⟩, h⟩
        simp only
        cases capture.add f word with
        | error e => rfl
        | ok capture => exact ih h capture

theorem scanFrom_spelled {segments : List Segment} {words : List (List Char)}
    (hs : Separable segments) (hne : ∀ s ∈ segments, s.piece ≠ .literal [])
    (hw : Spells segments words) (capture : Capture) :
    scanFrom segments words.flatten capture = takeWords segments words capture := by
  rw [scanFrom_eq_takeRuns]
  exact takeRuns_eq_takeWords hw
    (fieldWords_eq_zip hs hne hw [] fun _ c hc => by cases hc) capture

theorem Template.scan_spelled {t : Template} {words : List (List Char)}
    (hs : Separable t.segments) (hne : ∀ s ∈ t.segments, s.piece ≠ .literal [])
    (hw : Spells t.segments words) : t.scan words.flatten = takeWords t.segments words {} :=
  scanFrom_spelled hs hne hw {}

end VersionStamp
