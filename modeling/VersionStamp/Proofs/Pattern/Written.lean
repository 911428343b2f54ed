import Mathlib.Data.List.Basic
import VersionStamp.Pattern.Escape
import VersionStamp.Pattern.Reader
import VersionStamp.Proofs.Outcome

/-! Pattern texts that stand for themselves. Escaped characters and the sign for numbers are read in
any context as the parts that they were written for: what precedes them does not change their
meaning and they leave nothing open for what follows. -/

namespace VersionStamp.Pattern

/-- The next token begins a new part or repeats the last one, and no flags are on. -/
structure ReaderState.AwaitsPart (s : ReaderState) : Prop where
  mode : s.mode = .sequence ∨ s.mode = .afterRepeat
  flags : s.current.flags = []

/-- The reader went from `s` to `s'` by adding `parts` to the open alternative. -/
structure ReaderState.Adds (s s' : ReaderState) (parts : List Part) : Prop where
  mode : s'.mode = .sequence ∨ s'.mode = .afterRepeat
  rest : s' = { s with
    mode := s'.mode
    current := { s.current with parts := parts.reverse ++ s.current.parts } }

theorem ReaderState.Adds.awaits {s s' : ReaderState} {parts : List Part} (h : s.Adds s' parts)
    (hs : s.AwaitsPart) : s'.AwaitsPart :=
  ⟨h.mode, by rw [h.rest]; exact hs.flags⟩

/-- In any context `text` is read as `parts`. -/
def Writes (text : List Char) (parts : List Part) : Prop :=
  ∀ (rest : List Char) (i : Nat) (s : ReaderState), s.AwaitsPart → ∃ tokens s',
    tokensFrom (text ++ rest) i =
      (tokens ++ (tokensFrom rest (i + text.length)).1, (tokensFrom rest (i + text.length)).2) ∧
    tokens.foldlM readToken s = .ok s' ∧ s.Adds s' parts

theorem writes_nil : Writes [] [] := fun _ _ s hs => ⟨[], s, rfl, rfl, hs.mode, rfl⟩

theorem Writes.append {a b : List Char} {p q : List Part} (ha : Writes a p) (hb : Writes b q) :
    Writes (a ++ b) (p ++ q) := by
  intro rest i s hs
  rcases ha (b ++ rest) i s hs with ⟨ta, s₁, hta, hra, hadds₁⟩
  rcases hb rest (i + a.length) s₁ (hadds₁.awaits hs) with ⟨tb, s₂, htb, hrb, hadds₂⟩
  refine ⟨ta ++ tb, s₂, ?_, ?_, hadds₂.mode, ?_⟩
  · rw [List.append_assoc, hta, htb, List.length_append, Nat.add_assoc, List.append_assoc]
  · rw [List.foldlM_append, hra]
    exact hrb
  · rw [hadds₂.rest, hadds₁.rest]
    simp

theorem writes_flatMap {α : Type} (text : α → List Char) (parts : α → List Part)
    (h : ∀ a, Writes (text a) (parts a)) (l : List α) :
    Writes (l.flatMap text) (l.flatMap parts) := by
  induction l with
  | nil => exact writes_nil
  | cons a l ih => exact (h a).append ih

/-- The part that a literal character is read as. -/
def charPart (c : Char) : Part := { pattern := .char c }

theorem ReaderState.addItem_char {s : ReaderState} (h : s.current.flags = []) (c : Char) :
    s.addItem (.char c) = s.add (charPart c) := by
  simp [addItem, charPart, Group.rules, h, Pattern.char, CharSet.single]

theorem readSequence_of_needsEscape {s : ReaderState} (hs : s.AwaitsPart) {c : Char}
    (h : needsEscape c = true) (i : Nat) :
    readSequence s ⟨c, true, i⟩ = .ok (s.add (charPart c)) := by
  have hsigns : c ∈ "\t\n\x0b\x0c\r #$&()*+-.?[\\]^\x7b|\x7d~".toList := by
    simpa [needsEscape] using h
  have hall : ∀ x ∈ "\t\n\x0b\x0c\r #$&()*+-.?[\\]^\x7b|\x7d~".toList,
      decide (anchorEscape? false x = none ∧ classEscape? x = none ∧ longEscape? false x = none ∧
        controlEscape? x = none ∧ x.isAlphanum = false) = true :=
    List.all_eq_true.1 (by decide)
  obtain ⟨hanchor, hclass, hlong, hcontrol, halnum⟩ := of_decide_eq_true (hall c hsigns)
  have hliteral : literalEscape ⟨c, true, i⟩ = .ok c := by simp [literalEscape, hcontrol, halnum]
  simp [readSequence, readEscape, Token.isPlain, Token.is, Group.rules, hs.flags, hanchor, hclass,
    hlong, hliteral, ReaderState.addItem_char, ReaderState.add]

theorem readSequence_of_not_needsEscape {s : ReaderState} (hs : s.AwaitsPart) {c : Char}
    (h : needsEscape c = false) (i : Nat) :
    readSequence s ⟨c, false, i⟩ = .ok (s.add (charPart c)) := by
  simp only [readSequence, hs.flags, List.contains_nil, Bool.false_and, Bool.false_eq_true, if_false]
  split
  case h_12 => simp [ReaderState.addItem_char, hs.flags, ReaderState.add]
  all_goals exact absurd h (by decide)

theorem meet_of_awaitsPart {s : ReaderState} (hs : s.AwaitsPart) {t : Token}
    (hclose : t.is ')' = false) (hbar : t.is '|' = false) : meet s t = .ok s := by
  rcases hs.mode with hs | hs
  all_goals simp [meet, settle, refuse, hs, hclose, hbar]

/-- The signs that end a part, or change the manner of a repetition. -/
def closingSigns : List Char := ['?', '+', ')', '|']

theorem readToken_of_awaitsPart {s : ReaderState} (hs : s.AwaitsPart) {t : Token}
    (h : ∀ c ∈ closingSigns, t.is c = false) : readToken s t = readSequence s t := by
  simp only [closingSigns, List.forall_mem_cons, List.not_mem_nil, false_implies, implies_true,
    and_true] at h
  obtain ⟨hlazy, hpossessive, hclose, hbar⟩ := h
  rw [readToken, meet_of_awaitsPart hs hclose hbar]
  change take s t = _
  rcases hs.mode with hs | hs
  · simp only [take, hs]
  · simp [take, hs, hlazy, hpossessive]

theorem ReaderState.adds_add (s : ReaderState) (part : Part) : s.Adds (s.add part) [part] :=
  ⟨.inl rfl, rfl⟩

theorem writes_escapeChar (c : Char) : Writes (escapeChar c) [charPart c] := by
  intro rest i s hs
  by_cases h : needsEscape c = true
  · have hread : readToken s ⟨c, true, i⟩ = .ok (s.add (charPart c)) := by
      rw [readToken_of_awaitsPart hs fun _ _ => rfl, readSequence_of_needsEscape hs h]
    refine ⟨[⟨c, true, i⟩], _, ?_, ?_, s.adds_add _⟩
    · simp [escapeChar, h, tokensFrom]
    · simp [hread]
  · rw [Bool.not_eq_true] at h
    have hslash : c ≠ '\\' := by
      rintro rfl
      exact absurd h (by decide)
    have hread : readToken s ⟨c, false, i⟩ = .ok (s.add (charPart c)) := by
      rw [readToken_of_awaitsPart hs, readSequence_of_not_needsEscape hs h]
      intro x hx
      have hsign : needsEscape x = true :=
        List.all_eq_true.1 (by decide : closingSigns.all needsEscape = true) x hx
      have hne : c ≠ x := by
        rintro rfl
        rw [h] at hsign
        cases hsign
      simp [Token.is, hne]
    refine ⟨[⟨c, false, i⟩], _, ?_, ?_, s.adds_add _⟩
    · simp [escapeChar, h, tokensFrom, hslash]
    · simp [hread]

theorem writes_escape (text : List Char) : Writes (escape text) (text.map charPart) := by
  rw [List.map_eq_flatMap]
  exact writes_flatMap _ _ writes_escapeChar text

def numberPart : Part := ⟨.number, .alreadyRepeated⟩

theorem writes_numberText : Writes numberText [numberPart] := by
  intro rest i s hs
  let digit : Part := { pattern := .set .digits }
  have hclass : readToken s ⟨'d', true, i⟩ = .ok (s.add digit) := by
    rw [readToken_of_awaitsPart hs fun _ _ => rfl]
    simp [readSequence, readEscape, anchorEscape?, classEscape?, Token.isPlain, Token.is, hs.flags,
      ReaderState.addItem, ReaderState.add, Group.rules, digit, CharSet.digits]
  have hrepeat : readToken (s.add digit) ⟨'+', false, i + 2⟩ =
      .ok { s.add numberPart with mode := .afterRepeat } := by
    have hflags : (s.add digit).current.flags = [] := hs.flags
    rw [readToken, meet_of_awaitsPart ⟨.inl rfl, hflags⟩ rfl rfl]
    change readSequence (s.add digit) _ = _
    simp only [readSequence, hflags, List.contains_nil, Bool.false_and, Bool.false_eq_true, if_false]
    rfl
  refine ⟨[⟨'d', true, i⟩, ⟨'+', false, i + 2⟩],
    { s.add numberPart with mode := .afterRepeat }, ?_, ?_, .inr rfl, rfl⟩
  · simp [numberText, tokensFrom]
  · rw [List.foldlM_cons, hclass]
    exact bind_eq_ok.2 ⟨_, rfl, bind_eq_ok.2 ⟨_, hrepeat, rfl⟩⟩

theorem fault?_ofList {template : Bool} {items : List Pattern}
    (h : ∀ p ∈ items, p.fault? template = none) : (ofList items).fault? template = none := by
  induction items with
  | nil => rfl
  | cons p items ih =>
    rw [List.forall_mem_cons] at h
    change (p.fault? template).or ((ofList items).fault? template) = none
    rw [h.1, ih h.2]
    rfl

/-- A text that is read as parts in every context is a pattern: the parts one after the other. -/
theorem Writes.ofText_eq {text : List Char} {parts : List Part} (h : Writes text parts)
    (hparts : ∀ part ∈ parts, part.pattern.fault? false = none) :
    ofText text = .ok (ofList (parts.map (·.pattern))) := by
  rcases h [] 0 .start ⟨.inl rfl, rfl⟩ with ⟨tokens, s, htokens, hread, hadds⟩
  simp only [List.append_nil] at htokens
  have hbody : s.current.body = ofList (parts.map (·.pattern)) := by
    rw [hadds.rest]
    simp [ReaderState.start, Group.body, Group.branch, ofBranches]
  have hfault : s.current.body.fault? false = none := by
    rw [hbody]
    exact fault?_ofList (List.forall_mem_map.2 hparts)
  have hall : finishSequence s = .ok s.current.body := by
    have hflags : s.current.flags = [] := by rw [hadds.rest]; rfl
    have houter : s.outer = [] := by rw [hadds.rest]; rfl
    have hasked : s.asked = [] := by rw [hadds.rest]; rfl
    simp [finishSequence, checkWhole, hflags, houter, hasked, hfault]
  have hfinish : finishReading s text.length = .ok s.current.body := by
    have hsettle : settle s none text.length = .ok s := by
      rcases hadds.mode with hs | hs
      all_goals simp [settle, hs]
    refine bind_eq_ok.2 ⟨s, hsettle, ?_⟩
    rcases hadds.mode with hs | hs
    all_goals simp only [hs, hall]
  simp only [ofText, htokens, tokensFrom, List.append_nil, Bool.false_eq_true, if_false, hread]
  change finishReading s text.length = _
  rw [hfinish, hbody]

end VersionStamp.Pattern
