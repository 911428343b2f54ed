import VersionStamp.Proofs.Pattern.Language
import VersionStamp.Proofs.Pattern.Written
import VersionStamp.Proofs.Template.Compile

/-! The language of a derived recognizer. A text matches just when it can be divided into one word
for each segment: the text of a literal, a percent sign, or a run of digits for a field. No
character of a literal has a meaning of its own in the pattern. -/

namespace VersionStamp

/-- The words that may stand for a piece in a version string. -/
def Piece.Shows : Piece → List Char → Prop
  | .literal text, word => word = text
  | .percent, word => word = ['%']
  | .field _, word => word ≠ [] ∧ Text.AllDigits word

/-- One word for each segment. -/
def Spells (segments : List Segment) (words : List (List Char)) : Prop :=
  List.Forall₂ (fun segment word => segment.piece.Shows word) segments words

/-- What the reader of patterns makes of a piece. -/
def Piece.parts : Piece → List Pattern.Part
  | .literal text => text.map Pattern.charPart
  | .percent => [Pattern.charPart '%']
  | .field _ => [Pattern.numberPart]

theorem Piece.writes_patternText (p : Piece) : Pattern.Writes p.patternText p.parts := by
  cases p with
  | literal text => exact Pattern.writes_escape text
  | percent => exact Pattern.writes_escapeChar '%'
  | field f => exact Pattern.writes_numberText

theorem Piece.reads_parts (p : Piece) :
    (Pattern.ofList (p.parts.map (·.pattern))).Reads p.Shows := by
  cases p with
  | literal text =>
    have hparts : (text.map Pattern.charPart).map (·.pattern) = text.map .char := by
      simp [Pattern.charPart]
    rw [parts, hparts]
    exact Pattern.reads_word text
  | percent => exact Pattern.reads_word ['%']
  | field f =>
    apply (Pattern.reads_number.seq Pattern.reads_empty).congr
    intro word
    simp [Pattern.Joined, Shows]

theorem Piece.fault?_parts (p : Piece) :
    ∀ part ∈ p.parts, part.pattern.fault? false = none := by
  cases p with
  | literal text => exact List.forall_mem_map.2 fun _ _ => rfl
  | percent => exact List.forall_mem_singleton.2 rfl
  | field f => exact List.forall_mem_singleton.2 rfl

/-- The pattern of a derived recognizer. -/
def derivedPattern (segments : List Segment) : Pattern :=
  .ofList ((segments.flatMap (·.piece.parts)).map (·.pattern))

theorem ofText_derivedRecognizer (segments : List Segment) :
    Pattern.ofText (derivedRecognizer segments) = .ok (derivedPattern segments) := by
  refine (Pattern.writes_flatMap _ _ (fun segment : Segment => segment.piece.writes_patternText)
    segments).ofText_eq fun part hpart => ?_
  rcases List.mem_flatMap.1 hpart with ⟨segment, -, hpart⟩
  exact segment.piece.fault?_parts part hpart

theorem reads_derivedPattern (segments : List Segment) :
    (derivedPattern segments).Reads fun text =>
      ∃ words, Spells segments words ∧ words.flatten = text := by
  induction segments with
  | nil =>
    apply Pattern.reads_empty.congr
    intro text
    constructor
    · rintro rfl
      exact ⟨[], .nil, rfl⟩
    · rintro ⟨_, hwords, rfl⟩
      cases hwords
      rfl
  | cons segment segments ih =>
    rw [derivedPattern, List.flatMap_cons, List.map_append]
    apply (segment.piece.reads_parts.append ih).congr
    intro text
    constructor
    · rintro ⟨word, _, rfl, hword, words, hwords, rfl⟩
      exact ⟨word :: words, .cons hword hwords, rfl⟩
    · rintro ⟨_, hwords, rfl⟩
      cases hwords with
      | cons hword hwords => exact ⟨_, _, rfl, hword, _, hwords, rfl⟩

theorem Template.MadeFrom.recognizes_iff {t : Template} {source : List Char}
    (h : t.MadeFrom source none) (text : List Char) :
    t.recognizes text = true ↔ ∃ words, Spells t.segments words ∧ words.flatten = text := by
  have hp : t.pattern = derivedPattern t.segments := by
    have hread := h.ofText_eq
    rw [h.recognizer_eq, Option.getD_none, ofText_derivedRecognizer] at hread
    exact (Except.ok.inj hread).symm
  rw [Template.recognizes, hp]
  exact (reads_derivedPattern t.segments).matchesAll_iff text

/-- The language of a derived recognizer is exact, and whatever the segments hold, the pattern text
derived from them can be read. -/
theorem derived_recognizer_language (source : List Char) :
    (∀ segments, ∃ pattern, Pattern.ofText (derivedRecognizer segments) = .ok pattern) ∧
    ∀ t, Template.compile source none = .ok t → ∀ text, t.recognizes text = true ↔
      ∃ words, Spells t.segments words ∧ words.flatten = text :=
  ⟨fun segments => ⟨_, ofText_derivedRecognizer segments⟩,
    fun _ ht => (Template.compile_eq_ok_iff.1 ht).recognizes_iff⟩

/-- Signs in a literal and adjacent fields: the words `(`, `20`, `٧` and `+`. The signs mean nothing
but themselves, so the same text without a sign is refused. -/
theorem derived_recognizer_language_adjacent : ∃ t,
    Template.compile ['(', '%', 'd', '%', '%', 'b', '%', '+'] none = .ok t ∧
    t.recognizes ['(', '2', '0', '٧', '+'] = true ∧ t.recognizes ['(', '2', '0', '٧'] = false := by
  obtain ⟨t, ht⟩ : ∃ t, Template.compile ['(', '%', 'd', '%', '%', 'b', '%', '+'] none = .ok t :=
    ⟨_, rfl⟩
  have hsegments : t.segments =
      [⟨.literal ['('], 0⟩, ⟨.field .date, 1⟩, ⟨.field (.counter .build), 4⟩, ⟨.literal ['+'], 7⟩] := by
    cases ht
    rfl
  have hlanguage := (derived_recognizer_language _).2 t ht
  refine ⟨t, ht, (hlanguage _).2 ⟨[['('], ['2', '0'], ['٧'], ['+']], ?_, rfl⟩, ?_⟩
  · rw [hsegments]
    exact .cons rfl (.cons ⟨by simp, List.all_eq_true.1 (by decide)⟩
      (.cons ⟨by simp, List.all_eq_true.1 (by decide)⟩ (.cons rfl .nil)))
  · rw [← Bool.not_eq_true, hlanguage, hsegments]
    rintro ⟨words, hwords, htext⟩
    have hlast : words.getLast? = some ['+'] := by
      rcases hwords with _ | ⟨-, _ | ⟨-, _ | ⟨-, _ | ⟨⟨⟩, ⟨⟩⟩⟩⟩⟩
      rfl
    obtain ⟨front, rfl⟩ := List.getLast?_eq_some_iff.1 hlast
    have hend := congrArg List.getLast? htext
    simp at hend

end VersionStamp
