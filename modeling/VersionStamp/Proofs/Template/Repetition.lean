import VersionStamp.Proofs.Template.Fault

/-! Fields that are used twice. A template is refused for a token that stands in its source twice, and
the search for it does not look at how the source is divided. So a letter between two percent signs is
taken for a field also where both signs belong to other segments, an escaped percent sign or another
field: such a letter is a literal of its own, and it has a segment on either side. -/

namespace VersionStamp

theorem Field.letter_injective : Function.Injective Field.letter := by
  intro f g h
  rw [← Option.some.injEq, ← ofLetter?_letter f, h, ofLetter?_letter]

theorem Piece.percent_of_token {p : Piece} (hp : p.isLiteral = false) :
    (∃ a, p.source = a ++ ['%']) ∧ ∃ b, p.source = '%' :: b ∧ b ≠ [] := by
  cases p with
  | literal l => cases hp
  | percent => exact ⟨⟨['%'], rfl⟩, ['%'], rfl, by simp⟩
  | field f => exact ⟨⟨['%', f.letter], rfl⟩, [f.letter, '%'], rfl, by simp⟩

namespace Division

variable {start : Nat} {segments before after : List Segment} {text a b : List Char} {f : Field}

theorem of_letter_percent {c : Char} (hc : c ≠ '%')
    (h : Division start segments (c :: '%' :: text)) : ∃ s after, segments = s :: after ∧
      s.piece = .literal [c] ∧ after.flatMap (·.source) = '%' :: text := by
  cases segments with
  | nil => cases h.text_eq_nil
  | cons s segments =>
    rcases cons_iff.1 h with ⟨-, hliteral, -, tail, heq, hrest⟩
    refine ⟨s, segments, rfl, ?_⟩
    rw [hrest.sources]
    cases hp : s.piece with
    | literal l =>
      rcases hliteral l hp with ⟨hne, hl⟩
      simp only [Segment.source, hp, Piece.source] at heq
      rcases l with _ | ⟨d, _ | ⟨e, l⟩⟩
      · exact absurd rfl hne
      · rcases List.cons.inj heq with ⟨rfl, rfl⟩
        exact ⟨rfl, rfl⟩
      · rcases List.cons.inj heq with ⟨rfl, heq'⟩
        rcases List.cons.inj heq' with ⟨rfl, -⟩
        simp at hl
    | percent => simp [Segment.source, hp, Piece.source, hc] at heq
    | field g => simp [Segment.source, hp, Piece.source, Field.token, hc] at heq

/-- A percent sign and a letter in one segment are those of a field. -/
theorem eq_field_of_source_eq {s : Segment} {l : List Char} (hs : ∀ l, s.piece = .literal l → '%' ∉ l)
    (h : s.source = a ++ '%' :: f.letter :: l) : s.piece = .field f ∧ a = [] ∧ l = ['%'] := by
  cases hp : s.piece with
  | literal text =>
    rw [Segment.source, hp, Piece.source] at h
    have hfree := hs text hp
    simp [h] at hfree
  | percent =>
    rw [Segment.source, hp, Piece.source] at h
    rcases a with _ | ⟨x, _ | ⟨y, a⟩⟩
    · simp [Ne.symm f.letter_ne_percent] at h
    · simp at h
    · simp at h
  | field g =>
    rw [Segment.source, hp, Piece.source, Field.token] at h
    rcases a with _ | ⟨x, _ | ⟨y, a⟩⟩
    · simp only [List.nil_append, List.cons.injEq, true_and] at h
      obtain rfl := Field.letter_injective h.1
      exact ⟨rfl, rfl, h.2.symm⟩
    · simp [g.letter_ne_percent] at h
    · have hlength := congrArg List.length h
      simp only [List.length_cons, List.length_nil, List.length_append] at hlength
      omega

/-- A token in the text is a field, or a letter between percent signs of the segments next to it. -/
theorem of_token (h : Division start segments (a ++ f.token ++ b)) :
    ∃ before s after, segments = before ++ s :: after ∧
      (s.piece = .field f ∧ before.flatMap (·.source) = a ∧ after.flatMap (·.source) = b ∨
      s.piece = .literal [f.letter] ∧ before.flatMap (·.source) = a ++ ['%'] ∧
        after.flatMap (·.source) = '%' :: b) := by
  induction segments generalizing start a with
  | nil => simpa [Field.token] using h.text_eq_nil
  | cons s segments ih =>
    rcases cons_iff.1 h with ⟨-, hliteral, -, tail, heq, hrest⟩
    have hlater (a' : List Char) (ha : a = s.source ++ a') (htail : tail = a' ++ (f.token ++ b)) :
        ∃ before x after, s :: segments = before ++ x :: after ∧
          (x.piece = .field f ∧ before.flatMap (·.source) = a ∧ after.flatMap (·.source) = b ∨
          x.piece = .literal [f.letter] ∧ before.flatMap (·.source) = a ++ ['%'] ∧
            after.flatMap (·.source) = '%' :: b) := by
      rw [htail, ← List.append_assoc] at hrest
      obtain ⟨before, x, after, rfl, hx⟩ := ih hrest
      refine ⟨s :: before, x, after, rfl, hx.imp ?_ ?_⟩
      · rintro ⟨hpiece, hbefore, hafter⟩
        exact ⟨hpiece, by rw [List.flatMap_cons, hbefore, ha], hafter⟩
      · rintro ⟨hpiece, hbefore, hafter⟩
        exact ⟨hpiece, by rw [List.flatMap_cons, hbefore, ha, List.append_assoc], hafter⟩
    rw [List.append_assoc, List.append_eq_append_iff] at heq
    rcases heq with ⟨_ | ⟨x, _ | ⟨y, l⟩⟩, hs, htoken⟩ | ⟨a', ha, htail⟩
    · exact hlater [] (by simpa using hs.symm) htoken.symm
    · -- the percent sign that ends `s`, and a letter after it
      rcases List.cons.inj htoken with ⟨rfl, rfl⟩
      obtain ⟨x, after, rfl, hpiece, hafter⟩ := hrest.of_letter_percent f.letter_ne_percent
      exact ⟨[s], x, after, rfl, .inr ⟨hpiece, by simp [hs], hafter⟩⟩
    · rcases List.cons.inj htoken with ⟨rfl, htoken'⟩
      rcases List.cons.inj htoken' with ⟨rfl, htail⟩
      obtain ⟨hpiece, rfl, rfl⟩ := eq_field_of_source_eq (fun l hl => (hliteral l hl).2) hs
      refine ⟨[], s, segments, rfl, .inl ⟨hpiece, rfl, ?_⟩⟩
      rw [hrest.sources]
      exact (List.cons.inj htail).2.symm
    · exact hlater a' ha htail

theorem append_right (h : Division start (before ++ after) text) :
    Division (start + (before.flatMap (·.source)).length) after (after.flatMap (·.source)) := by
  induction before generalizing start text with
  | nil => exact h.sources ▸ h
  | cons s before ih =>
    rcases cons_iff.1 h with ⟨-, -, -, tail, -, hrest⟩
    rw [List.flatMap_cons, List.length_append, ← Nat.add_assoc]
    exact ih hrest

theorem ends_with_percent {s : Segment} (h : Division start (before ++ s :: after) text)
    (hs : s.piece.isLiteral = true) (hne : before ≠ []) :
    ∃ a, before.flatMap (·.source) = a ++ ['%'] := by
  obtain ⟨front, p, rfl⟩ : ∃ front p, before = front ++ [p] :=
    ⟨_, _, (List.dropLast_append_getLast hne).symm⟩
  have hp : p.piece.isLiteral = false := by
    have hnext := (List.isChain_append.1 h.apart).2.2 p (by simp) s (by simp)
    simpa [hs] using hnext
  obtain ⟨⟨a, ha⟩, -⟩ := Piece.percent_of_token hp
  exact ⟨front.flatMap (·.source) ++ a, by simp [Segment.source, ha]⟩

/-- What stands after a literal begins with a percent sign, and does not end with it. -/
theorem begins_with_percent {s : Segment} {between : List Segment}
    (h : Division start (before ++ s :: (between ++ after)) text) (hs : s.piece.isLiteral = true)
    (hne : between ≠ []) : ∃ b, between.flatMap (·.source) = '%' :: b ∧ b ≠ [] := by
  rcases cons_iff.1 h.append_right with ⟨-, -, hnext, -⟩
  obtain ⟨p, rest, rfl⟩ := List.exists_cons_of_ne_nil hne
  have hp : p.piece.isLiteral = false := hnext hs p rfl
  obtain ⟨-, b, hb, hbne⟩ := Piece.percent_of_token hp
  exact ⟨b ++ rest.flatMap (·.source), by simp [Segment.source, hb], by simp [hbne]⟩

theorem behind {s : Segment} (h : Division start (before ++ s :: after) text) :
    ∃ start, Division start after (after.flatMap (·.source)) := by
  rw [List.append_cons] at h
  exact ⟨_, h.append_right⟩

end Division

/-- Two segments that are no neighbours put the token of `f` in the source, each as the field or as a
literal of nothing but its letter between two other segments. -/
def Recurs (f : Field) (segments : List Segment) : Prop :=
  ∃ before s between s' after, segments = before ++ s :: (between ++ s' :: after) ∧ between ≠ [] ∧
    (s.piece = .field f ∨ s.piece = .literal [f.letter] ∧ before ≠ []) ∧
    (s'.piece = .field f ∨ s'.piece = .literal [f.letter] ∧ after ≠ [])

theorem not_nodup_fieldsOf {before between after : List Segment} {s s' : Segment} {f : Field}
    (hs : s.piece = .field f) (hs' : s'.piece = .field f) :
    ¬(fieldsOf (before ++ s :: (between ++ s' :: after))).Nodup := by
  have hfield := Segment.field?_eq_some_iff.2 hs
  have hfield' := Segment.field?_eq_some_iff.2 hs'
  simp only [fieldsOf, List.filterMap_append, List.filterMap_cons, hfield, hfield',
    List.nodup_append, List.nodup_cons]
  simp

section

variable {start : Nat} {segments : List Segment} {text : List Char}
  (h : Division start segments text)

include h

/-- Two tokens in the text are two fields, or one of them is a letter between percent signs. -/
theorem Division.recurs_of_occursTwice {f : Field} (htwice : OccursTwice f.token text) :
    ¬(fieldsOf segments).Nodup ∨ Recurs f segments := by
  rcases htwice with ⟨a, b, c, rfl⟩
  rw [List.append_assoc _ b, List.append_assoc _ _ c] at h
  obtain ⟨before, s, rest, rfl, hfirst⟩ := h.of_token
  obtain ⟨b', hrest, hs⟩ : ∃ b', rest.flatMap (·.source) = b' ++ f.token ++ c ∧
      (s.piece = .field f ∨ b' ≠ [] ∧ s.piece = .literal [f.letter] ∧ before ≠ []) := by
    rcases hfirst with ⟨hpiece, -, hrest⟩ | ⟨hpiece, hbefore, hrest⟩
    · exact ⟨b, hrest, .inl hpiece⟩
    · refine ⟨'%' :: b, hrest, .inr ⟨by simp, hpiece, ?_⟩⟩
      rintro rfl
      simp at hbefore
  obtain ⟨n, hbehind⟩ := h.behind
  rw [hrest] at hbehind
  obtain ⟨between, s', after, rfl, hs'⟩ := hbehind.of_token
  by_cases hne : between = []
  · -- neighbours: a letter would share its percent sign with the other token
    subst hne
    rcases hs' with ⟨hpiece', rfl, -⟩ | ⟨-, hbetween, -⟩
    · rcases hs with hpiece | ⟨hb, -⟩
      · exact .inl (not_nodup_fieldsOf hpiece hpiece')
      · exact absurd rfl hb
    · simp at hbetween
  · refine .inr ⟨before, s, between, s', after, rfl, hne, hs.imp_right (·.2), hs'.imp (·.1) ?_⟩
    rintro ⟨hpiece', -, hafter⟩
    refine ⟨hpiece', ?_⟩
    rintro rfl
    simp at hafter

theorem Division.occursTwice_of_recurs {f : Field} (hrecurs : Recurs f segments) :
    OccursTwice f.token text := by
  rcases hrecurs with ⟨before, s, between, s', after, rfl, hne, hs, hs'⟩
  have hfield {x : Segment} (hx : x.piece = .field f) : x.source = f.token := by
    rw [Segment.source, hx, Piece.source]
  have hletter {x : Segment} (hx : x.piece = .literal [f.letter]) :
      x.piece.isLiteral = true ∧ x.source = [f.letter] := by
    rw [Segment.source, hx]
    exact ⟨rfl, rfl⟩
  -- the first token leaves the percent sign at the end of `between` to the second
  obtain ⟨a, m, hleft, hend⟩ : ∃ a m, before.flatMap (·.source) ++ s.source ++
      between.flatMap (·.source) = a ++ f.token ++ m ∧
      ∀ q, between.flatMap (·.source) = q ++ ['%'] → ∃ q', m = q' ++ ['%'] := by
    rcases hs with hs | ⟨hs, hbefore⟩
    · exact ⟨_, _, by rw [hfield hs], fun q hq => ⟨q, hq⟩⟩
    · obtain ⟨a, ha⟩ := h.ends_with_percent (hletter hs).1 hbefore
      obtain ⟨m, hm, hmne⟩ := h.begins_with_percent (hletter hs).1 hne
      refine ⟨a, m, by simp [ha, hm, (hletter hs).2, Field.token], fun q hq => ?_⟩
      rw [hm] at hq
      rcases q with _ | ⟨x, q⟩
      · simp [hmne] at hq
      · exact ⟨q, (List.cons.inj hq).2⟩
  obtain ⟨b, c, hright⟩ : ∃ b c, m ++ s'.source ++ after.flatMap (·.source) =
      b ++ f.token ++ c := by
    rcases hs' with hs' | ⟨hs', hafter⟩
    · exact ⟨_, _, by rw [hfield hs']⟩
    · obtain ⟨n, hbehind⟩ := h.behind
      obtain ⟨q, hq⟩ := hbehind.ends_with_percent (hletter hs').1 hne
      obtain ⟨b, hb⟩ := hend q hq
      rw [← List.append_nil after] at hbehind
      obtain ⟨c, hc, -⟩ := hbehind.begins_with_percent (hletter hs').1 hafter
      exact ⟨b, c, by simp [hb, hc, (hletter hs').2, Field.token]⟩
  refine ⟨a, b, c, ?_⟩
  calc text
      = before.flatMap (·.source) ++ s.source ++ between.flatMap (·.source) ++
          s'.source ++ after.flatMap (·.source) := by rw [← h.sources]; simp
    _ = a ++ f.token ++ (m ++ s'.source ++ after.flatMap (·.source)) := by rw [hleft]; simp
    _ = a ++ f.token ++ b ++ f.token ++ c := by rw [hright]; simp

/-- A token stands twice in the text of segments where a field has two of them, or where its letter
between percent signs looks like a field. -/
theorem Division.exists_occursTwice_iff : (∃ f : Field, OccursTwice f.token text) ↔
    ¬(fieldsOf segments).Nodup ∨ ∃ f, Recurs f segments := by
  constructor
  · rintro ⟨f, htwice⟩
    exact (h.recurs_of_occursTwice htwice).imp_right fun hrecurs => ⟨f, hrecurs⟩
  · rintro (hnodup | ⟨f, hrecurs⟩)
    · by_contra hnone
      rw [not_exists] at hnone
      exact hnodup (nodup_fieldsOf (h.sources ▸ hnone))
    · exact ⟨f, h.occursTwice_of_recurs hrecurs⟩

end

theorem Template.exists_repeatedField_iff {source : List Char} {segments : List Segment}
    (hne : source ≠ []) (hblank : ∀ c ∈ source, Text.isBlank c = false)
    (hsplit : split source 0 = .ok segments) :
    (∃ f i, compile source none = .error (.repeatedField f i)) ↔
      ∃ f : Field, OccursTwice f.token source := by
  rw [compile_none_eq hne, segmentsOf, blankIndex?_eq_none_iff.2 hblank, hsplit]
  cases hrepeated : repeatedField? source with
  | some repeated =>
    have htwice : ∃ f : Field, OccursTwice f.token source := by
      by_contra hnone
      rw [not_exists, ← repeatedField?_eq_none_iff, hrepeated] at hnone
      cases hnone
    exact iff_of_true ⟨_, _, rfl⟩ htwice
  | none =>
    have hnone := not_exists.2 (repeatedField?_eq_none_iff.1 hrepeated)
    refine iff_of_false ?_ hnone
    rintro ⟨f, i, h⟩
    cases h

/-- A template that can be split is refused for a field that is used twice just where a field has two
segments, or where two segments apart look like one field, as its token or as its letter between other
segments. -/
theorem repeated_field_iff {source : List Char} {segments : List Segment} (hne : source ≠ [])
    (hblank : ∀ c ∈ source, Text.isBlank c = false)
    (hsplit : Template.split source 0 = .ok segments) :
    (∃ f i, Template.compile source none = .error (.repeatedField f i)) ↔
      ¬(fieldsOf segments).Nodup ∨ ∃ f, Recurs f segments := by
  rw [Template.exists_repeatedField_iff hne hblank hsplit]
  exact (Template.division_of_split hsplit).exists_occursTwice_iff

/-- A field, and its letter between two escaped percent signs. -/
theorem repeated_field_iff_letter : ∃ segments,
    Template.split ['%', 'M', '%', '.', '%', '%', 'M', '%', '%'] 0 = .ok segments ∧
    (fieldsOf segments).Nodup ∧ ∃ f i, Template.compile
      ['%', 'M', '%', '.', '%', '%', 'M', '%', '%'] none = .error (.repeatedField f i) := by
  refine ⟨[⟨.field .major, 0⟩, ⟨.literal ['.'], 3⟩, ⟨.percent, 4⟩, ⟨.literal ['M'], 6⟩,
    ⟨.percent, 7⟩], rfl, by decide, ?_⟩
  refine (repeated_field_iff (by simp) (Template.blankIndex?_eq_none_iff.1 rfl) rfl).2 (.inr ?_)
  exact ⟨.major, [], _, [⟨.literal ['.'], 3⟩, ⟨.percent, 4⟩], _, [⟨.percent, 7⟩], rfl, by simp,
    .inl rfl, .inr ⟨rfl, by simp⟩⟩

/-- Segments that are neighbours share a percent sign, so the token stands there only once. -/
example : ∃ t, Template.compile ['%', 'M', '%', 'M', '%', '%'] none = .ok t := ⟨_, rfl⟩

/-- A template may be refused for a field that is used twice where it uses no field at all. -/
theorem repeated_without_field : ¬∀ (source : List Char) (segments : List Segment), source ≠ [] →
    (∀ c ∈ source, Text.isBlank c = false) → Template.split source 0 = .ok segments →
    ((∃ f i, Template.compile source none = .error (.repeatedField f i)) ↔
      ¬(fieldsOf segments).Nodup) := by
  intro hclaim
  have hiff := hclaim ['%', '%', 'M', '%', '%', 'M', '%', '%']
    [⟨.percent, 0⟩, ⟨.literal ['M'], 2⟩, ⟨.percent, 3⟩, ⟨.literal ['M'], 5⟩, ⟨.percent, 6⟩]
    (by simp) (Template.blankIndex?_eq_none_iff.1 rfl) rfl
  exact hiff.1 ⟨.major, 4, rfl⟩ List.nodup_nil

end VersionStamp
