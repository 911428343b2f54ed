import Mathlib.Data.List.Chain
import VersionStamp.Proofs.Template.Fields
import VersionStamp.Proofs.Template.Recognizer

/-! The grammar of templates. A template is accepted just when it holds no white space, uses no
token of a field twice, and is put together from tokens and text without percent signs. A percent
sign tells at once which token begins, so the division into segments is the only one. -/

namespace VersionStamp

/-- `token` stands in `text` twice, the second time after the end of the first. -/
def OccursTwice (token text : List Char) : Prop :=
  ∃ a b c, text = a ++ token ++ b ++ token ++ c

/-- Tokens and text without percent signs, in any order and number. -/
def IsConcatenation (text : List Char) : Prop :=
  ∃ pieces : List Piece, (∀ l, .literal l ∈ pieces → '%' ∉ l) ∧ pieces.flatMap (·.source) = text

def Piece.isLiteral : Piece → Bool
  | .literal _ => true
  | _ => false

/-- The segments make up a text that begins at `start`. -/
structure Division (start : Nat) (segments : List Segment) (text : List Char) : Prop where
  sources : segments.flatMap (·.source) = text
  positions : ∀ before s after, segments = before ++ s :: after →
    s.position = start + (before.flatMap (·.source)).length
  literals : ∀ s ∈ segments, ∀ l, s.piece = .literal l → l ≠ [] ∧ '%' ∉ l
  apart : segments.IsChain fun a b => ¬(a.piece.isLiteral = true ∧ b.piece.isLiteral = true)

/-! ### Divisions -/

namespace Division

theorem nil (start : Nat) : Division start [] [] :=
  ⟨rfl, fun _ _ _ h => by simp at h, fun _ h => absurd h List.not_mem_nil, .nil⟩

theorem text_eq_nil {start : Nat} {text : List Char} (h : Division start [] text) : text = [] :=
  h.sources.symm

/-- Segment by segment: each begins where the one before it ends. -/
theorem cons_iff {start : Nat} {s : Segment} {rest : List Segment} {text : List Char} :
    Division start (s :: rest) text ↔
      s.position = start ∧ (∀ l, s.piece = .literal l → l ≠ [] ∧ '%' ∉ l) ∧
      (s.piece.isLiteral = true → ∀ next ∈ rest.head?, next.piece.isLiteral = false) ∧
      ∃ tail, text = s.source ++ tail ∧ Division (start + s.source.length) rest tail := by
  constructor
  · intro h
    refine ⟨by simpa using h.positions [] s rest rfl, h.literals s (by simp), ?_, _,
      h.sources.symm, rfl, ?_, ?_, h.apart.tail⟩
    · intro hs next hnext
      rcases List.head?_eq_some_iff.1 hnext with ⟨rest, rfl⟩
      simpa [hs] using (List.isChain_cons_cons.1 h.apart).1
    · intro before x after heq
      have := h.positions (s :: before) x after (by rw [heq]; rfl)
      simpa [Nat.add_assoc] using this
    · exact fun x hx => h.literals x (List.mem_cons_of_mem s hx)
  · rintro ⟨hposition, hliteral, hnext, tail, rfl, hrest⟩
    refine ⟨by rw [List.flatMap_cons, hrest.sources], ?_, ?_, ?_⟩
    · intro before x after heq
      cases before with
      | nil =>
        rcases List.cons.inj heq with ⟨rfl, -⟩
        simpa using hposition
      | cons y before =>
        rcases List.cons.inj heq with ⟨rfl, rfl⟩
        simpa [Nat.add_assoc] using hrest.positions before x after rfl
    · exact List.forall_mem_cons.2 ⟨hliteral, hrest.literals⟩
    · cases rest with
      | nil => exact .singleton s
      | cons next rest =>
        refine List.isChain_cons_cons.2 ⟨?_, hrest.apart⟩
        rintro ⟨hs, hs'⟩
        simp [hnext hs next rfl] at hs'

theorem cons_token {start : Nat} {p : Piece} {rest : List Segment} {tail : List Char}
    (hp : p.isLiteral = false) (h : Division (start + p.source.length) rest tail) :
    Division start (⟨p, start⟩ :: rest) (p.source ++ tail) := by
  refine cons_iff.2 ⟨rfl, ?_, fun hp' => ?_, tail, rfl, h⟩
  · rintro l rfl
    cases hp
  · rw [hp] at hp'
    cases hp'

theorem prependChar {start : Nat} {c : Char} {rest : List Segment} {tail : List Char} (hc : c ≠ '%')
    (h : Division (start + 1) rest tail) :
    Division start (Template.prependChar c start rest) (c :: tail) := by
  unfold Template.prependChar
  split
  · rename_i l position rest
    rcases cons_iff.1 h with ⟨-, hl, hnext, tail, rfl, hrest⟩
    refine cons_iff.2 ⟨rfl, ?_, hnext, tail, rfl, ?_⟩
    · rintro _ ⟨⟩
      exact ⟨by simp, by simp [Ne.symm hc, (hl l rfl).2]⟩
    · rw [show start + (Segment.source ⟨.literal (c :: l), start⟩).length =
        start + 1 + (Segment.source ⟨.literal l, position⟩).length by
          simp [Segment.source, Piece.source]; omega]
      exact hrest
  · rename_i hfirst
    refine cons_iff.2 ⟨rfl, ?_, fun _ next hnext => ?_, tail, rfl, h⟩
    · rintro _ ⟨⟩
      exact ⟨by simp, by simp [Ne.symm hc]⟩
    · rcases List.head?_eq_some_iff.1 hnext with ⟨rest, rfl⟩
      cases hp : next.piece with
      | literal l => exact (hfirst l next.position rest (by rw [← hp])).elim
      | percent => rfl
      | field f => rfl

end Division

theorem Field.letter_ne_percent (f : Field) : f.letter ≠ '%' := by
  rcases f with (_ | _ | _) | _ | _ <;> decide

namespace Template

/-! ### Splitting -/

theorem split_percent (rest : List Char) (start : Nat) :
    split ('%' :: '%' :: rest) start = (split rest (start + 2)).map (⟨.percent, start⟩ :: ·) := by
  rw [split]
  cases split rest (start + 2) <;> rfl

theorem split_token (f : Field) (rest : List Char) (start : Nat) :
    split (f.token ++ rest) start = (split rest (start + 3)).map (⟨.field f, start⟩ :: ·) := by
  change split ('%' :: f.letter :: '%' :: rest) start = _
  rw [split]
  · simp only [Field.ofLetter?_letter]
    cases split rest (start + 3) <;> rfl
  · exact f.letter_ne_percent

theorem split_char {c : Char} (hc : c ≠ '%') (rest : List Char) (start : Nat) :
    split (c :: rest) start = (split rest (start + 1)).map (prependChar c start) := by
  rw [split]
  · cases split rest (start + 1) <;> rfl
  all_goals simp [hc]

theorem division_of_split {text : List Char} {start : Nat} {segments : List Segment}
    (h : split text start = .ok segments) : Division start segments text := by
  fun_induction split text start generalizing segments with
  | case1 start =>
    cases h
    exact .nil start
  | case2 rest start _ hrest ih =>
    cases h
    exact Division.cons_token (p := .percent) rfl (ih hrest)
  | case5 c rest start _ f hf _ hrest ih =>
    cases h
    obtain rfl := Field.letter_of_ofLetter? hf
    exact Division.cons_token (p := .field f) rfl (ih hrest)
  | case9 c rest start _ _ _ hc _ hrest ih =>
    cases h
    exact (ih hrest).prependChar hc
  | case3 | case4 | case6 | case7 | case8 | case10 => cases h

theorem split_literal {l tail : List Char} {start : Nat} {segments : List Segment} (hne : l ≠ [])
    (hl : '%' ∉ l) (htail : split tail (start + l.length) = .ok segments)
    (hnext : ∀ next ∈ segments.head?, next.piece.isLiteral = false) :
    split (l ++ tail) start = .ok (⟨.literal l, start⟩ :: segments) := by
  induction l generalizing start with
  | nil => exact absurd rfl hne
  | cons c l ih =>
    rw [List.mem_cons, not_or] at hl
    rw [List.cons_append, split_char (Ne.symm hl.1)]
    cases l with
    | nil =>
      rw [List.nil_append, show start + 1 = start + [c].length from rfl, htail]
      cases segments with
      | nil => rfl
      | cons next segments =>
        have hnext := hnext next rfl
        rcases next with ⟨p, position⟩
        cases p with
        | literal l => cases hnext
        | percent => rfl
        | field f => rfl
    | cons d l =>
      rw [ih (by simp) hl.2 (by rw [← htail]; congr 1; simp; omega)]
      rfl

/-- There is no other division than the one that splitting finds. -/
theorem split_of_division {text : List Char} {start : Nat} {segments : List Segment}
    (h : Division start segments text) : split text start = .ok segments := by
  induction segments generalizing start text with
  | nil =>
    rw [h.text_eq_nil]
    rfl
  | cons s segments ih =>
    rcases Division.cons_iff.1 h with ⟨hposition, hliteral, hnext, tail, rfl, hrest⟩
    have hsplit := ih hrest
    rcases s with ⟨p, position⟩
    obtain rfl : position = start := hposition
    cases p with
    | literal l => exact split_literal (hliteral l rfl).1 (hliteral l rfl).2 hsplit (hnext rfl)
    | percent =>
      change split ('%' :: '%' :: tail) position = _
      rw [split_percent]
      change (split tail (position + 2)) = _ at hsplit
      rw [hsplit]
      rfl
    | field f =>
      change split (f.token ++ tail) position = _
      rw [split_token]
      change (split tail (position + 3)) = _ at hsplit
      rw [hsplit]
      rfl

theorem split_eq_ok_iff {text : List Char} {start : Nat} {segments : List Segment} :
    split text start = .ok segments ↔ Division start segments text :=
  ⟨division_of_split, split_of_division⟩

theorem exists_split_append {l tail : List Char} (hl : '%' ∉ l)
    (htail : ∀ start, ∃ segments, split tail start = .ok segments) (start : Nat) :
    ∃ segments, split (l ++ tail) start = .ok segments := by
  induction l generalizing start with
  | nil => exact htail start
  | cons c l ih =>
    rw [List.mem_cons, not_or] at hl
    rcases ih hl.2 (start + 1) with ⟨segments, hsegments⟩
    rw [List.cons_append, split_char (Ne.symm hl.1), hsegments]
    exact ⟨_, rfl⟩

theorem exists_split_of_isConcatenation {text : List Char} (h : IsConcatenation text) (start : Nat) :
    ∃ segments, split text start = .ok segments := by
  rcases h with ⟨pieces, hliterals, rfl⟩
  induction pieces generalizing start with
  | nil => exact ⟨[], rfl⟩
  | cons p pieces ih =>
    have hrest (n : Nat) := ih n fun l hl => hliterals l (List.mem_cons_of_mem p hl)
    rw [List.flatMap_cons]
    cases p with
    | literal l => exact exists_split_append (hliterals l (by simp)) hrest start
    | percent =>
      rcases hrest (start + 2) with ⟨segments, hsegments⟩
      change ∃ segments, split ('%' :: '%' :: pieces.flatMap (·.source)) start = .ok segments
      rw [split_percent, hsegments]
      exact ⟨_, rfl⟩
    | field f =>
      rcases hrest (start + 3) with ⟨segments, hsegments⟩
      rw [Piece.source, split_token, hsegments]
      exact ⟨_, rfl⟩

end Template

theorem Division.isConcatenation {start : Nat} {segments : List Segment} {text : List Char}
    (h : Division start segments text) : IsConcatenation text := by
  refine ⟨segments.map (·.piece), fun l hl => ?_, ?_⟩
  · rcases List.mem_map.1 hl with ⟨s, hs, hpiece⟩
    exact (h.literals s hs l hpiece).2
  · rw [List.flatMap_map]
    exact h.sources

/-! ### Repeated tokens -/

theorem occursTwice_cons_iff {token rest : List Char} {c : Char} (h : ¬token <+: c :: rest) :
    OccursTwice token (c :: rest) ↔ OccursTwice token rest := by
  constructor
  · rintro ⟨a, b, d, heq⟩
    cases a with
    | nil => exact absurd ⟨b ++ token ++ d, by simpa using heq.symm⟩ h
    | cons x a => exact ⟨a, b, d, (List.cons.inj heq).2⟩
  · rintro ⟨a, b, d, rfl⟩
    exact ⟨c :: a, b, d, rfl⟩

/-- After a token at the very beginning a second one stands in the rest. -/
theorem occursTwice_append_iff {token rest : List Char} :
    OccursTwice token (token ++ rest) ↔ token <:+: rest := by
  constructor
  · rintro ⟨a, b, c, heq⟩
    have hrest : rest = ((a ++ token ++ b) ++ (token ++ c)).drop token.length := by
      rw [← List.append_assoc, ← heq, List.drop_left]
    rw [List.drop_append_of_le_length (by simp; omega)] at hrest
    exact ⟨_, c, by rw [hrest, List.append_assoc]⟩
  · rintro ⟨b, c, rfl⟩
    exact ⟨[], b, c, by simp⟩

theorem OccursTwice.append_left {token text : List Char} (h : OccursTwice token text)
    (before : List Char) : OccursTwice token (before ++ text) := by
  rcases h with ⟨a, b, c, rfl⟩
  exact ⟨before ++ a, b, c, by simp⟩

namespace Template

/-- The search from left to right finds nothing where there is no token, and finds no second token
where there are no two apart. -/
theorem tokenStarts_spec (letter : Char) (text : List Char) (start : Nat) :
    (tokenStarts letter text start = [] ↔ ¬['%', letter, '%'] <:+: text) ∧
    ((tokenStarts letter text start).length ≤ 1 ↔ ¬OccursTwice ['%', letter, '%'] text) := by
  fun_induction tokenStarts letter text start with
  | case1 start =>
    constructor
    · simp
    · simp [OccursTwice]
  | case2 rest start ih =>
    have hhere : ['%', letter, '%'] <:+: '%' :: letter :: '%' :: rest := ⟨[], rest, rfl⟩
    have htwice : OccursTwice ['%', letter, '%'] ('%' :: letter :: '%' :: rest) ↔ _ :=
      occursTwice_append_iff
    constructor
    · simpa using hhere
    · rw [htwice, ← ih.1]
      simp
  | case3 c rest start hc ih =>
    have hhead : ¬['%', letter, '%'] <+: '%' :: c :: '%' :: rest := by
      simp [Ne.symm hc]
    rwa [List.infix_cons_iff, or_iff_right hhead, occursTwice_cons_iff hhead]
  | case4 c rest start hnone ih =>
    have hhead : ¬['%', letter, '%'] <+: c :: rest := by
      rintro ⟨after, heq⟩
      rcases List.cons.inj heq with ⟨rfl, rfl⟩
      exact hnone letter after rfl rfl
    rwa [List.infix_cons_iff, or_iff_right hhead, occursTwice_cons_iff hhead]

theorem repeatedField?_eq_none_iff {source : List Char} :
    repeatedField? source = none ↔ ∀ f : Field, ¬OccursTwice f.token source := by
  simp only [repeatedField?, List.findSome?_eq_none_iff, Field.mem_all, true_implies]
  apply forall_congr'
  intro f
  rw [Field.token, ← (tokenStarts_spec f.letter source 0).2]
  rcases tokenStarts f.letter source 0 with _ | ⟨first, _ | ⟨second, rest⟩⟩ <;> simp

theorem blankIndex?_eq_none_iff {source : List Char} :
    blankIndex? source = none ↔ ∀ c ∈ source, Text.isBlank c = false := by
  simp [blankIndex?]

/-- Segments are found just where none of the three checks fails. -/
theorem segmentsOf_eq_ok_iff {source : List Char} {segments : List Segment} :
    segmentsOf source = .ok segments ↔ (∀ c ∈ source, Text.isBlank c = false) ∧
      (∀ f : Field, ¬OccursTwice f.token source) ∧ Division 0 segments source := by
  rw [← blankIndex?_eq_none_iff, ← repeatedField?_eq_none_iff, ← split_eq_ok_iff, segmentsOf]
  cases blankIndex? source with
  | some index => simp
  | none =>
    cases repeatedField? source with
    | some repeated => simp
    | none => simp

theorem MadeFrom.division {t : Template} {source : List Char} {recognizer : Option (List Char)}
    (h : t.MadeFrom source recognizer) : Division 0 t.segments t.source :=
  (segmentsOf_eq_ok_iff.1 h.segmentsOf_eq).2.2

theorem MadeFrom.literal_ne_nil {t : Template} {source : List Char}
    {recognizer : Option (List Char)} (h : t.MadeFrom source recognizer) :
    ∀ s ∈ t.segments, s.piece ≠ .literal [] :=
  fun s hs hnil => (h.division.literals s hs [] hnil).1 rfl

end Template

theorem nodup_fieldsOf {segments : List Segment}
    (h : ∀ f : Field, ¬OccursTwice f.token (segments.flatMap (·.source))) :
    (fieldsOf segments).Nodup := by
  induction segments with
  | nil => exact List.nodup_nil
  | cons s segments ih =>
    rw [List.flatMap_cons] at h
    have hrest := ih fun f hf => h f (hf.append_left s.source)
    cases hfield : s.field? with
    | none => rwa [fieldsOf_cons_of_none hfield]
    | some f =>
      rw [fieldsOf_cons_of_some hfield, List.nodup_cons]
      refine ⟨fun hmem => h f ?_, hrest⟩
      rcases mem_fieldsOf.1 hmem with ⟨x, hx, hpiece⟩
      have hsource (x : Segment) (hx : x.piece = .field f) : x.source = f.token := by
        rw [Segment.source, hx, Piece.source]
      rw [hsource s (Segment.field?_eq_some_iff.1 hfield), occursTwice_append_iff, ← hsource x hpiece]
      exact List.infix_of_mem_flatten (List.mem_map_of_mem hx)

theorem Template.MadeFrom.nodup_fields {t : Template} {source : List Char}
    {recognizer : Option (List Char)} (h : t.MadeFrom source recognizer) :
    (fieldsOf t.segments).Nodup :=
  nodup_fieldsOf fun f => h.division.sources ▸ (segmentsOf_eq_ok_iff.1 h.segmentsOf_eq).2.1 f

/-- A template is accepted just when it keeps to the grammar, and then it has one division: its
segments. Each field has a segment at most, and is in use where it has one. -/
theorem compile_grammar {source : List Char} (hne : source ≠ []) :
    ((∃ t, Template.compile source none = .ok t) ↔
      (∀ c ∈ source, Text.isBlank c = false) ∧ (∀ f : Field, ¬OccursTwice f.token source) ∧
        IsConcatenation source) ∧
    ∀ t, Template.compile source none = .ok t → t.source = source ∧
      (∀ segments, Division 0 segments source ↔ segments = t.segments) ∧ t.fields.Nodup ∧
      ∀ f, t.uses f = true ↔ ∃ s ∈ t.segments, s.piece = .field f := by
  have hsource : Template.sourceInForce source = source := by
    rw [Template.sourceInForce, if_neg (by simpa using hne)]
  have hchecks (t : Template) (ht : t.MadeFrom source none) :
      (∀ c ∈ source, Text.isBlank c = false) ∧ (∀ f : Field, ¬OccursTwice f.token source) ∧
        Division 0 t.segments source := by
    rw [← Template.segmentsOf_eq_ok_iff, ← hsource, ← ht.source_eq]
    exact ht.segmentsOf_eq
  simp only [Template.compile_eq_ok_iff]
  constructor
  · constructor
    · rintro ⟨t, ht⟩
      rcases hchecks t ht with ⟨hblank, htwice, hdivision⟩
      exact ⟨hblank, htwice, hdivision.isConcatenation⟩
    · rintro ⟨hblank, htwice, hconcat⟩
      rcases Template.exists_split_of_isConcatenation hconcat 0 with ⟨segments, hsplit⟩
      have hdivision := Template.split_eq_ok_iff.1 hsplit
      exact ⟨⟨source, segments, derivedRecognizer segments, derivedPattern segments⟩, hsource.symm,
        Template.segmentsOf_eq_ok_iff.2 ⟨hblank, htwice, hdivision⟩, rfl,
        ofText_derivedRecognizer segments⟩
  · intro t ht
    rcases hchecks t ht with ⟨-, htwice, hdivision⟩
    refine ⟨ht.source_eq.trans hsource, fun segments => ⟨fun h => ?_, ?_⟩, ?_, fun f => ?_⟩
    · have hsplit := Template.split_eq_ok_iff.2 h
      rw [Template.split_eq_ok_iff.2 hdivision] at hsplit
      exact (Except.ok.inj hsplit).symm
    · rintro rfl
      exact hdivision
    · exact nodup_fieldsOf fun f => hdivision.sources ▸ htwice f
    · rw [Template.uses_iff, mem_fieldsOf]

/-- A literal between a percent sign and two fields. -/
theorem compile_grammar_adjacent : ['%', '%', 'v', '%', 'M', '%', '%', 'b', '%'] ≠ [] ∧ ∃ t,
    Template.compile ['%', '%', 'v', '%', 'M', '%', '%', 'b', '%'] none = .ok t ∧
    Division 0 t.segments ['%', '%', 'v', '%', 'M', '%', '%', 'b', '%'] ∧ t.fields.Nodup ∧
    t.uses .major = true ∧ t.uses .minor = false := by
  obtain ⟨t, ht, hmajor, hminor⟩ : ∃ t,
      Template.compile ['%', '%', 'v', '%', 'M', '%', '%', 'b', '%'] none = .ok t ∧
      t.uses .major = true ∧ t.uses .minor = false := ⟨_, rfl, rfl, rfl⟩
  obtain ⟨-, hdivision, hnodup, -⟩ := (compile_grammar (by simp)).2 t ht
  exact ⟨by simp, t, ht, (hdivision t.segments).2 rfl, hnodup, hmajor, hminor⟩

end VersionStamp
