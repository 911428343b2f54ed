import Mathlib.Order.Bounds.Basic
import VersionStamp.Proofs.Template.Grammar

/-! What is wrong with a template. The first white space is reported before anything else, then the
first field that is used twice, at its second use, then the percent sign at which splitting gets stuck.
That is the one percent sign that begins no token and has only tokens and text without percent signs
before it. -/

namespace VersionStamp

/-- `second` is where a search from left to right finds `token` for the second time. -/
structure SecondUse (token text : List Char) (first second : Nat) : Prop where
  first_isLeast : IsLeast {i | token <+: text.drop i} first
  second_isLeast : IsLeast {i | first + token.length ≤ i ∧ token <+: text.drop i} second

/-- Splitting `text` gets stuck at the percent sign between `before` and `after`. -/
structure StuckAt (text before after : List Char) : Prop where
  text_eq : text = before ++ '%' :: after
  isConcatenation : IsConcatenation before
  not_token : ∀ p : Piece, p.isLiteral = false → ¬p.source <+: '%' :: after

/-- What is reported of a percent sign at `position` that begins no token, by what follows it. -/
def strayFault (position : Nat) : List Char → TemplateError
  | c :: '%' :: _ => .unknownField c (position + 1)
  | c :: _ :: _ => .unclosed c (position + 2)
  | _ => .unbalanced position

/-! ### White space -/

theorem Template.blankIndex?_eq_some_iff {source : List Char} {i : Nat} :
    blankIndex? source = some i ↔
      IsLeast {i | ∃ c ∈ source[i]?, Text.isBlank c = true} i := by
  rw [blankIndex?, List.findIdx?_eq_some_iff_getElem]
  constructor
  · rintro ⟨hi, hblank, hbefore⟩
    refine ⟨⟨_, List.getElem?_eq_getElem hi, hblank⟩, ?_⟩
    rintro j ⟨c, hc, hj⟩
    obtain ⟨hlt, rfl⟩ := List.getElem?_eq_some_iff.1 hc
    by_contra hji
    exact hbefore j (not_le.1 hji) hj
  · rintro ⟨⟨c, hc, hblank⟩, hleast⟩
    obtain ⟨hi, rfl⟩ := List.getElem?_eq_some_iff.1 hc
    refine ⟨hi, hblank, fun j hj hjblank => ?_⟩
    have hle : i ≤ j := hleast ⟨_, List.getElem?_eq_getElem (hj.trans hi), hjblank⟩
    exact absurd hj hle.not_gt

/-! ### Repeated tokens -/

theorem isLeast_succ {token text : List Char} {c : Char} {k : Nat} (h : ¬token <+: c :: text)
    (hk : IsLeast {i | token <+: text.drop i} k) :
    IsLeast {i | token <+: (c :: text).drop i} (k + 1) := by
  refine ⟨hk.1, fun i hi => ?_⟩
  cases i with
  | zero => exact absurd hi h
  | succ i => exact Nat.succ_le_succ (hk.2 hi)

namespace Template

/-- Each step of the search finds the first token that there is, and goes on behind it. -/
theorem tokenStarts_eq_cons {letter : Char} {text : List Char} {start i : Nat} {rest : List Nat}
    (h : tokenStarts letter text start = i :: rest) : ∃ k, i = start + k ∧
      IsLeast {k | ['%', letter, '%'] <+: text.drop k} k ∧
      rest = tokenStarts letter (text.drop (k + 3)) (i + 3) := by
  fun_induction tokenStarts letter text start with
  | case1 start => cases h
  | case2 after start ih =>
    cases h
    exact ⟨0, rfl, ⟨⟨after, rfl⟩, fun _ _ => Nat.zero_le _⟩, rfl⟩
  | case3 c after start hc ih =>
    obtain ⟨k, rfl, hk, hrest⟩ := ih h
    have hhead : ¬['%', letter, '%'] <+: '%' :: c :: '%' :: after := by
      simp [Ne.symm hc]
    exact ⟨k + 1, by omega, isLeast_succ hhead hk, hrest⟩
  | case4 c after start hnone ih =>
    obtain ⟨k, rfl, hk, hrest⟩ := ih h
    have hhead : ¬['%', letter, '%'] <+: c :: after := by
      rintro ⟨tail, heq⟩
      rcases List.cons.inj heq with ⟨rfl, rfl⟩
      exact hnone letter tail rfl rfl
    exact ⟨k + 1, by omega, isLeast_succ hhead hk, hrest⟩

theorem secondUse_of_tokenStarts {f : Field} {source : List Char} {first second : Nat}
    {rest : List Nat} (h : tokenStarts f.letter source 0 = first :: second :: rest) :
    SecondUse f.token source first second := by
  obtain ⟨k, hfirst, hk, hrest⟩ := tokenStarts_eq_cons h
  obtain rfl : first = k := hfirst.trans (Nat.zero_add k)
  obtain ⟨l, rfl, hl, -⟩ := tokenStarts_eq_cons hrest.symm
  have hlater (i : Nat) : f.token <+: (source.drop (first + 3)).drop i ↔
      f.token <+: source.drop (first + 3 + i) := by
    rw [List.drop_drop]
  refine ⟨hk, ⟨⟨Nat.le_add_right _ _, (hlater l).1 hl.1⟩, ?_⟩⟩
  rintro i ⟨hle, hi⟩
  obtain ⟨m, rfl⟩ : ∃ m, i = first + 3 + m := Nat.exists_eq_add_of_le hle
  exact Nat.add_le_add_left (hl.2 ((hlater m).2 hi)) _

theorem repeatedField?_eq_some {source : List Char} {f : Field} {second : Nat}
    (h : repeatedField? source = some (f, second)) :
    (∃ earlier later, Field.all = earlier ++ f :: later ∧
      ∀ g ∈ earlier, ¬OccursTwice g.token source) ∧
    ∃ first, SecondUse f.token source first second := by
  obtain ⟨earlier, g, later, hall, hg, hearlier⟩ := List.findSome?_eq_some_iff.1 h
  split at hg
  · rename_i first second' rest hstarts
    cases hg
    refine ⟨⟨earlier, later, hall, fun x hx => ?_⟩, first, secondUse_of_tokenStarts hstarts⟩
    have hnone := hearlier x hx
    rw [Field.token, ← (tokenStarts_spec x.letter source 0).2]
    rcases hx : tokenStarts x.letter source 0 with _ | ⟨a, _ | ⟨b, rest⟩⟩
    · simp
    · simp
    · simp [hx] at hnone
  · cases hg

end Template

/-! ### Stray percent signs -/

theorem IsConcatenation.nil : IsConcatenation [] := ⟨[], by simp, rfl⟩

theorem IsConcatenation.source_append {p : Piece} {text : List Char}
    (hp : ∀ l, p = .literal l → '%' ∉ l) (h : IsConcatenation text) :
    IsConcatenation (p.source ++ text) := by
  rcases h with ⟨pieces, hliterals, rfl⟩
  refine ⟨p :: pieces, fun l hl => ?_, rfl⟩
  rcases List.mem_cons.1 hl with heq | hl
  · exact hp l heq.symm
  · exact hliterals l hl

theorem StuckAt.source_append {p : Piece} {text before after : List Char}
    (hp : ∀ l, p = .literal l → '%' ∉ l) (h : StuckAt text before after) :
    StuckAt (p.source ++ text) (p.source ++ before) after where
  text_eq := by rw [h.text_eq, List.append_assoc]
  isConcatenation := h.isConcatenation.source_append hp
  not_token := h.not_token

/-- A percent sign begins a token with another percent sign after it, and with the letter of a field
and a percent sign after that. -/
theorem not_token_iff {after : List Char} :
    (∀ p : Piece, p.isLiteral = false → ¬p.source <+: '%' :: after) ↔
      (∀ rest, after ≠ '%' :: rest) ∧
        ∀ c rest, after = c :: '%' :: rest → Field.ofLetter? c = none := by
  constructor
  · intro h
    constructor
    · rintro rest rfl
      exact h .percent rfl ⟨rest, rfl⟩
    · rintro c rest rfl
      cases hf : Field.ofLetter? c with
      | none => rfl
      | some f =>
        obtain rfl := Field.letter_of_ofLetter? hf
        exact absurd ⟨rest, rfl⟩ (h (.field f) rfl)
  · rintro ⟨hpercent, hletter⟩ p hp ⟨rest, heq⟩
    cases p with
    | literal l => cases hp
    | percent => exact hpercent rest (List.cons.inj heq).2.symm
    | field f =>
      have hnone := hletter f.letter rest (List.cons.inj heq).2.symm
      rw [Field.ofLetter?_letter] at hnone
      cases hnone

namespace Template

theorem stuckAt_of_split {text : List Char} {start : Nat} {e : TemplateError}
    (h : split text start = .error e) : ∃ before after, StuckAt text before after ∧
      e = strayFault (start + before.length) after := by
  have hhere {after : List Char} (hnot : (∀ rest, after ≠ '%' :: rest) ∧
      ∀ c rest, after = c :: '%' :: rest → Field.ofLetter? c = none) :
      StuckAt ('%' :: after) [] after := ⟨rfl, .nil, not_token_iff.2 hnot⟩
  fun_induction split text start generalizing e with
  | case1 | case2 | case5 | case9 => cases h
  | case3 rest start e' hrest ih =>
    cases h
    obtain ⟨before, after, hstuck, rfl⟩ := ih hrest
    refine ⟨_, after, hstuck.source_append (p := .percent) (by simp), ?_⟩
    rw [List.length_append, ← Nat.add_assoc]
    rfl
  | case4 c rest start hc hnone =>
    cases h
    refine ⟨[], _, hhere ⟨?_, ?_⟩, rfl⟩
    · rintro tail ⟨⟩
      exact hc rfl
    · rintro _ tail ⟨⟩
      exact hnone
  | case6 c rest start hc f hf e' hrest ih =>
    cases h
    obtain rfl := Field.letter_of_ofLetter? hf
    obtain ⟨before, after, hstuck, rfl⟩ := ih hrest
    refine ⟨_, after, hstuck.source_append (p := .field f) (by simp), ?_⟩
    rw [List.length_append, ← Nat.add_assoc]
    rfl
  | case7 c d rest start hc hd =>
    cases h
    refine ⟨[], _, hhere ⟨?_, ?_⟩, ?_⟩
    · rintro tail ⟨⟩
      exact hc rfl
    · rintro _ tail ⟨⟩
      exact absurd rfl hd
    · rw [strayFault]
      · rfl
      · exact hd
  | case8 rest start hpercent hclosed hlong =>
    cases h
    refine ⟨[], _, hhere ⟨hpercent, fun c tail heq => absurd heq (hclosed c tail)⟩, ?_⟩
    rw [strayFault]
    · rfl
    · exact hclosed
    · exact hlong
  | case10 c rest start _ _ _ hc e' hrest ih =>
    cases h
    obtain ⟨before, after, hstuck, rfl⟩ := ih hrest
    refine ⟨_, after, hstuck.source_append (p := .literal [c]) ?_, ?_⟩
    · rintro _ ⟨⟩
      simpa using Ne.symm hc
    · rw [List.length_append, ← Nat.add_assoc]
      rfl

theorem split_source_append {p : Piece} (hp : ∀ l, p = .literal l → '%' ∉ l) {text : List Char}
    {start : Nat} {e : TemplateError} (h : split text (start + p.source.length) = .error e) :
    split (p.source ++ text) start = .error e := by
  cases p with
  | literal l =>
    have hl : '%' ∉ l := hp l rfl
    clear hp
    simp only [Piece.source] at h ⊢
    induction l generalizing start with
    | nil => exact h
    | cons c l ih =>
      rw [List.mem_cons, not_or] at hl
      have hrest : split (l ++ text) (start + 1) = .error e := by
        apply ih _ hl.2
        rw [← h, List.length_cons, Nat.add_assoc, Nat.add_comm 1]
      rw [List.cons_append, split_char (Ne.symm hl.1), hrest]
      rfl
  | percent =>
    change split ('%' :: '%' :: text) start = _
    rw [split_percent, show split text (start + 2) = .error e from h]
    rfl
  | field f =>
    change split (f.token ++ text) start = _
    rw [split_token, show split text (start + 3) = .error e from h]
    rfl

theorem split_of_not_token {after : List Char}
    (h : ∀ p : Piece, p.isLiteral = false → ¬p.source <+: '%' :: after) (start : Nat) :
    split ('%' :: after) start = .error (strayFault start after) := by
  rcases not_token_iff.1 h with ⟨hpercent, hletter⟩
  rcases after with _ | ⟨c, _ | ⟨d, rest⟩⟩
  · rfl
  · have hc : c ≠ '%' := fun hc => hpercent [] (by rw [hc])
    rw [split, strayFault]
    all_goals simp [hc]
  · have hc : c ≠ '%' := fun hc => hpercent (d :: rest) (by rw [hc])
    by_cases hd : d = '%'
    · subst hd
      rw [split, hletter c rest rfl]
      · rfl
      · exact hc
    · rw [split, strayFault]
      all_goals simp [hc, hd]

theorem split_of_stuckAt {text before after : List Char} (h : StuckAt text before after)
    (start : Nat) : split text start = .error (strayFault (start + before.length) after) := by
  rcases h with ⟨rfl, ⟨pieces, hliterals, rfl⟩, hnot⟩
  induction pieces generalizing start with
  | nil => exact split_of_not_token hnot start
  | cons p pieces ih =>
    rw [List.flatMap_cons, List.append_assoc, List.length_append, ← Nat.add_assoc]
    apply split_source_append fun l hl => hliterals l (by simp [hl])
    exact ih _ fun l hl => hliterals l (List.mem_cons_of_mem p hl)

end Template

theorem strayFault_position {p q : Nat} {a b : List Char} (h : strayFault p a = strayFault q b) :
    p = q := by
  unfold strayFault at h
  split at h <;> split at h <;> cases h <;> rfl

theorem StuckAt.unique {text before after before' after' : List Char}
    (h : StuckAt text before after) (h' : StuckAt text before' after') :
    before = before' ∧ after = after' := by
  have hfault := (Template.split_of_stuckAt h 0).symm.trans (Template.split_of_stuckAt h' 0)
  have hlength := strayFault_position (Except.error.inj hfault)
  rw [Nat.zero_add, Nat.zero_add] at hlength
  obtain ⟨hbefore, hafter⟩ := List.append_inj (h.text_eq.symm.trans h'.text_eq) hlength
  exact ⟨hbefore, (List.cons.inj hafter).2⟩

/-! ### Compiling -/

theorem Template.compile_none_eq {source : List Char} (hne : source ≠ []) :
    compile source none = (segmentsOf source).map fun segments =>
      ⟨source, segments, derivedRecognizer segments, derivedPattern segments⟩ := by
  have hsource : (if source.isEmpty then defaultSource else source) = source := by
    rw [if_neg (by simpa using hne)]
  rw [compile, hsource]
  cases segmentsOf source with
  | error e => rfl
  | ok segments =>
    simp only [bind, Except.bind, Option.getD_none, ofText_derivedRecognizer]
    rfl

/-- A template that is not empty is accepted, or refused for its first problem: white space before a
field that is used twice, and that before a percent sign that begins no token. White space is reported
where it first stands, the first field that is used twice at its second use, and a percent sign by what
follows it; there is only one at which splitting gets stuck. -/
theorem compile_first_problem {source : List Char} (hne : source ≠ []) :
    (∃ i, IsLeast {i | ∃ c ∈ source[i]?, Text.isBlank c = true} i ∧
      Template.compile source none = .error (.whitespace i)) ∨
    (∀ c ∈ source, Text.isBlank c = false) ∧
      ((∃ f earlier later first second, Field.all = earlier ++ f :: later ∧
        (∀ g ∈ earlier, ¬OccursTwice g.token source) ∧
        SecondUse f.token source first second ∧
        Template.compile source none = .error (.repeatedField f second)) ∨
      (∀ f : Field, ¬OccursTwice f.token source) ∧
        ((IsConcatenation source ∧ ∃ t, Template.compile source none = .ok t) ∨
        ∃ before after, StuckAt source before after ∧
          (∀ before' after', StuckAt source before' after' → before' = before ∧ after' = after) ∧
          Template.compile source none = .error (strayFault before.length after))) := by
  rw [Template.compile_none_eq hne, Template.segmentsOf]
  cases hblank : Template.blankIndex? source with
  | some i => exact .inl ⟨i, Template.blankIndex?_eq_some_iff.1 hblank, rfl⟩
  | none =>
    refine .inr ⟨Template.blankIndex?_eq_none_iff.1 hblank, ?_⟩
    cases hrepeated : Template.repeatedField? source with
    | some repeated =>
      obtain ⟨⟨earlier, later, hall, hearlier⟩, first, hsecond⟩ :=
        Template.repeatedField?_eq_some hrepeated
      exact .inl ⟨_, earlier, later, first, _, hall, hearlier, hsecond, rfl⟩
    | none =>
      refine .inr ⟨Template.repeatedField?_eq_none_iff.1 hrepeated, ?_⟩
      cases hsplit : Template.split source 0 with
      | ok segments =>
        exact .inl ⟨(Template.division_of_split hsplit).isConcatenation, _, rfl⟩
      | error e =>
        obtain ⟨before, after, hstuck, rfl⟩ := Template.stuckAt_of_split hsplit
        refine .inr ⟨before, after, hstuck, fun _ _ h => h.unique hstuck, ?_⟩
        rw [Nat.zero_add]
        rfl

/-- After an escaped percent sign, text and a field, a letter that no percent sign follows. -/
theorem compile_first_problem_unclosed :
    ['%', '%', 'v', '%', 'M', '%', '%', 't', 'w', '%'] ≠ [] ∧
    Template.compile ['%', '%', 'v', '%', 'M', '%', '%', 't', 'w', '%'] none =
      .error (.unclosed 't' 8) ∧
    ∃ before after, StuckAt ['%', '%', 'v', '%', 'M', '%', '%', 't', 'w', '%'] before after ∧
      before.length = 6 := by
  have herror : Template.compile ['%', '%', 'v', '%', 'M', '%', '%', 't', 'w', '%'] none =
      .error (.unclosed 't' 8) := rfl
  have hne : ['%', '%', 'v', '%', 'M', '%', '%', 't', 'w', '%'] ≠ [] := by simp
  refine ⟨hne, herror, ?_⟩
  rcases compile_first_problem hne with ⟨i, -, h⟩ | ⟨-, ⟨f, -, -, -, i, -, -, -, h⟩ |
    ⟨-, ⟨-, t, h⟩ | ⟨before, after, hstuck, -, h⟩⟩⟩
  · rw [herror] at h
    cases h
  · rw [herror] at h
    cases h
  · rw [herror] at h
    cases h
  · refine ⟨before, after, hstuck, ?_⟩
    rw [herror, Except.error.injEq] at h
    unfold strayFault at h
    split at h
    · cases h
    · injection h with _ hindex
      omega
    · cases h

end VersionStamp
