import VersionStamp.Proofs.Reading
import VersionStamp.Proofs.Scan

/-! Matching and scanning agree. A text that matches the derived recognizer of a separable template
can be divided in one way only, and the scan takes for each field the word that its part of the
pattern matched. What can still go wrong is a counter that is too long to be read. -/

namespace VersionStamp

theorem mem_fieldWords {segments : List Segment} {words : List (List Char)} {f : Field}
    {word : List Char} : (f, word) ∈ fieldWords segments words ↔
      ∃ segment, (segment, word) ∈ segments.zip words ∧ segment.piece = .field f := by
  simp only [fieldWords, List.mem_filterMap, Prod.exists, Option.map_eq_some_iff, Prod.mk.injEq]
  constructor
  · rintro ⟨segment, w, hmem, g, hg, rfl, rfl⟩
    exact ⟨segment, hmem, Segment.field?_eq_some_iff.1 hg⟩
  · rintro ⟨segment, hmem, hpiece⟩
    exact ⟨segment, word, hmem, f, Segment.field?_eq_some_iff.2 hpiece, rfl, rfl⟩

theorem Spells.exists_word {segments : List Segment} {words : List (List Char)}
    (h : Spells segments words) {segment : Segment} (hmem : segment ∈ segments) :
    ∃ word, (segment, word) ∈ segments.zip words := by
  rw [← List.map_fst_zip h.length_eq.le] at hmem
  rcases List.mem_map.1 hmem with ⟨⟨s, word⟩, hword, rfl⟩
  exact ⟨word, hword⟩

/-- The words of the fields tell all words: the others have one form only. -/
theorem Spells.eq_of_fieldWords {segments : List Segment} {a b : List (List Char)}
    (ha : Spells segments a) (hb : Spells segments b)
    (h : fieldWords segments a = fieldWords segments b) : a = b := by
  induction ha generalizing b with
  | nil =>
    cases hb
    rfl
  | @cons segment word segments words hword hwords ih =>
    cases hb with
    | @cons _ word' _ words' hword' hwords' =>
      cases hfield : segment.field? with
      | none =>
        rw [fieldWords_cons_of_none hfield, fieldWords_cons_of_none hfield] at h
        rw [ih hwords' h]
        congr 1
        cases hpiece : segment.piece with
        | literal text =>
          rw [hpiece] at hword hword'
          exact hword.trans hword'.symm
        | percent =>
          rw [hpiece] at hword hword'
          exact hword.trans hword'.symm
        | field f =>
          rw [Segment.field?_eq_some_iff.2 hpiece] at hfield
          cases hfield
      | some f =>
        rw [fieldWords_cons_of_some hfield, fieldWords_cons_of_some hfield, List.cons.injEq,
          Prod.mk.injEq] at h
        rw [h.1.2, ih hwords' h.2]

namespace Template

section

variable {source : List Char} {recognizer : Option (List Char)} {t : Template}
  (hc : compile source recognizer = .ok t) (hs : Separable t.segments) {words : List (List Char)}
  (hw : Spells t.segments words)

include hc hs hw

theorem fieldWords_spelled : fieldWords t.segments words =
    (fieldsOf t.segments).zip (Text.digitRuns words.flatten) :=
  fieldWords_eq_zip hs (compile_eq_ok_iff.1 hc).literal_ne_nil hw [] fun _ c hc => by cases hc

theorem run?_spelled {segment : Segment} {word : List Char} {f : Field}
    (hmem : (segment, word) ∈ t.segments.zip words) (hpiece : segment.piece = .field f) :
    t.run? words.flatten f = some word := by
  have hfield : (f, word) ∈ fieldWords t.segments words := mem_fieldWords.2 ⟨segment, hmem, hpiece⟩
  rw [fieldWords_spelled hc hs hw] at hfield
  rcases List.getElem?_of_mem hfield with ⟨i, hi⟩
  rcases List.getElem?_zip_eq_some.1 hi with ⟨hf, hrun⟩
  rw [run?_of_rank hc words.flatten hf, hrun]

/-- A scan of a text that was spelled fails for a word that is too long for a counter only. -/
theorem scan_spelled_eq_error {e : ScanError} (h : t.scan words.flatten = .error e) :
    ∃ segment word c, (segment, word) ∈ t.segments.zip words ∧
      segment.piece = .field (.counter c) ∧ Text.digitLimit < word.length ∧
      e = ⟨.counter c, segment.position, .unreadable (.tooLong word.length)⟩ := by
  rcases scan_spec hc words.flatten with ⟨capture, hscan, -⟩ | ⟨e', hscan, hfirst⟩
  · rw [hscan] at h
    cases h
  · rw [hscan] at h
    cases h
    rcases hfirst with ⟨before, segment, after, hsegments, -, hpiece, hposition, hfault⟩
    have hsegment : segment ∈ t.segments := by simp [hsegments]
    obtain ⟨word, hmem⟩ := hw.exists_word hsegment
    rw [run?_spelled hc hs hw hmem hpiece] at hfault
    rcases e with ⟨f, position, fault⟩
    cases f with
    | counter c =>
      simp only [Field.fault?] at hfault
      split at hfault
      · cases hfault
      · rename_i hlong
        cases hfault
        obtain rfl : segment.position = position := hposition
        exact ⟨segment, word, c, hmem, hpiece, not_le.1 hlong, rfl⟩
    | date => cases hfault
    | time => cases hfault

end

end Template

/-- A text that matches the derived recognizer of a separable template is divided into words in one
way only, and scanning it is taking those words: each field is given its own word, and the only
error is a word that is too long for a counter. -/
theorem scan_recognized {source : List Char} {t : Template}
    (hc : Template.compile source none = .ok t) (hs : Separable t.segments) {text : List Char}
    (hmatch : t.recognizes text = true) :
    ∃ words, Spells t.segments words ∧ words.flatten = text ∧
      (∀ others, Spells t.segments others → others.flatten = text → others = words) ∧
      t.scan text = takeWords t.segments words {} ∧
      (∀ segment word f, (segment, word) ∈ t.segments.zip words → segment.piece = .field f →
        t.run? text f = some word ∧
          ∀ capture, t.scan text = .ok capture → capture.Holds f (some word)) ∧
      ∀ e, t.scan text = .error e → ∃ segment word c, (segment, word) ∈ t.segments.zip words ∧
        segment.piece = .field (.counter c) ∧ Text.digitLimit < word.length ∧
        e = ⟨.counter c, segment.position, .unreadable (.tooLong word.length)⟩ := by
  have hmade := Template.compile_eq_ok_iff.1 hc
  obtain ⟨words, hw, rfl⟩ := (hmade.recognizes_iff text).1 hmatch
  refine ⟨words, hw, rfl, fun others hothers heq => ?_,
    Template.scan_spelled hs hmade.literal_ne_nil hw, fun segment word f hmem hpiece => ?_,
    fun e => Template.scan_spelled_eq_error hc hs hw⟩
  · apply hothers.eq_of_fieldWords hw
    rw [Template.fieldWords_spelled hc hs hothers, Template.fieldWords_spelled hc hs hw, heq]
  · have hrun := Template.run?_spelled hc hs hw hmem hpiece
    refine ⟨hrun, fun capture hscan => ?_⟩
    rcases Template.scan_spec hc words.flatten with ⟨capture', hscan', -, hholds⟩ | ⟨e, hscan', -⟩
    · rw [hscan] at hscan'
      cases hscan'
      rw [← hrun]
      exact hholds f
    · rw [hscan] at hscan'
      cases hscan'

/-- Digits of two scripts, a leading zero, and a digit in the text after the last field. -/
theorem scan_recognized_suffix : ∃ t,
    Template.compile ['v', '%', 'M', '%', '.', '%', 'd', '%', '-', 'r', '2'] none = .ok t ∧
    Separable t.segments ∧ t.recognizes ['v', '0', '٣', '.', '7', '-', 'r', '2'] = true ∧
    (∀ words, Spells t.segments words → words.flatten = ['v', '0', '٣', '.', '7', '-', 'r', '2'] →
      words = [['v'], ['0', '٣'], ['.'], ['7'], ['-', 'r', '2']]) ∧
    t.scan ['v', '0', '٣', '.', '7', '-', 'r', '2'] = .ok { major := some 3, date := ['7'] } := by
  obtain ⟨t, ht, hs, hspelled, htake⟩ : ∃ t,
      Template.compile ['v', '%', 'M', '%', '.', '%', 'd', '%', '-', 'r', '2'] none = .ok t ∧
      Separable t.segments ∧
      Spells t.segments [['v'], ['0', '٣'], ['.'], ['7'], ['-', 'r', '2']] ∧
      takeWords t.segments [['v'], ['0', '٣'], ['.'], ['7'], ['-', 'r', '2']] {} =
        .ok { major := some 3, date := ['7'] } :=
    ⟨_, rfl, by decide, .cons rfl (.cons ⟨by decide, by simp; decide⟩ (.cons rfl
      (.cons ⟨by decide, by simp; decide⟩ (.cons rfl .nil)))), by decide⟩
  have hmatch : t.recognizes ['v', '0', '٣', '.', '7', '-', 'r', '2'] = true :=
    ((Template.compile_eq_ok_iff.1 ht).recognizes_iff _).2 ⟨_, hspelled, rfl⟩
  obtain ⟨words, -, -, hunique, hscan, -⟩ := scan_recognized ht hs hmatch
  obtain rfl := hunique _ hspelled rfl
  exact ⟨t, ht, hs, hmatch, hunique, hscan.trans htake⟩

end VersionStamp
