import Mathlib.Data.List.Chain
import VersionStamp.Proofs.Template.Fields

/-! Templates whose fields can be told apart in a version string. In a separable template the runs of
digits of a version string, from left to right, are its fields: fields never touch, and the literals
around them bring no digits of their own before the last field. -/

namespace VersionStamp

/-- A literal without digits, or no literal. -/
def Piece.isDigitFree : Piece → Bool
  | .literal text => text.all fun c => !Text.isDigit c
  | _ => true

/-- A field, or a literal that starts with a digit. -/
def Piece.opensWithDigit : Piece → Bool
  | .literal text => text.head?.any Text.isDigit
  | .percent => false
  | .field _ => true

structure Separable (segments : List Segment) : Prop where
  /-- No two fields stand next to each other. -/
  apart : segments.IsChain fun a b => ¬(a.isField = true ∧ b.isField = true)
  /-- No literal before a field holds a digit. -/
  digitFree : ∀ before field after, segments = before ++ field :: after → field.isField = true →
    ∀ s ∈ before, s.piece.isDigitFree = true
  /-- What directly follows the last field does not start with a digit. -/
  closed : ∀ before field next after, segments = before ++ field :: next :: after →
    field.isField = true → (∀ s ∈ next :: after, s.isField = false) →
    next.piece.opensWithDigit = false

namespace Separable

theorem nil : Separable [] :=
  ⟨.nil, fun _ _ _ h => by simp at h, fun _ _ _ _ h => by simp at h⟩

theorem tail {s : Segment} {rest : List Segment} (h : Separable (s :: rest)) : Separable rest where
  apart := h.apart.tail
  digitFree before field after heq hfield x hx :=
    h.digitFree (s :: before) field after (by rw [heq]; rfl) hfield x (List.mem_cons_of_mem s hx)
  closed before field next after heq hfield hlast :=
    h.closed (s :: before) field next after (by rw [heq]; rfl) hfield hlast

theorem head_isDigitFree {s : Segment} {rest : List Segment} (h : Separable (s :: rest))
    (hfield : ∃ field ∈ rest, field.isField = true) : s.piece.isDigitFree = true := by
  rcases hfield with ⟨field, hmem, hfield⟩
  rcases List.append_of_mem hmem with ⟨before, after, rfl⟩
  exact h.digitFree (s :: before) field after rfl hfield s (List.mem_cons_self ..)

theorem not_opensWithDigit_of_isDigitFree {p : Piece} (hp : p.isField = false)
    (h : p.isDigitFree = true) : p.opensWithDigit = false := by
  cases p with
  | literal text =>
    cases text with
    | nil => rfl
    | cons c text =>
      simp only [Piece.isDigitFree, List.all_cons, Bool.and_eq_true, Bool.not_eq_true'] at h
      simpa [Piece.opensWithDigit] using h.1
  | percent => rfl
  | field f => cases hp

/-- What follows a field does not start with a digit, be the field the last one or not. -/
theorem next_not_opensWithDigit {s next : Segment} {rest : List Segment}
    (h : Separable (s :: next :: rest)) (hs : s.isField = true) :
    next.piece.opensWithDigit = false := by
  have hnext : next.isField = false := by
    have := (List.isChain_cons_cons.1 h.apart).1
    simpa [hs] using this
  by_cases hlast : ∃ field ∈ rest, field.isField = true
  · exact not_opensWithDigit_of_isDigitFree hnext (h.tail.head_isDigitFree hlast)
  · refine h.closed [] s next rest rfl hs (List.forall_mem_cons.2 ⟨hnext, fun x hx => ?_⟩)
    simpa using fun hx' => hlast ⟨x, hx, hx'⟩

end Separable

theorem separable_cons_iff {s : Segment} {rest : List Segment} :
    Separable (s :: rest) ↔ Separable rest ∧
      ((∃ field ∈ rest, field.isField = true) → s.piece.isDigitFree = true) ∧
      (s.isField = true → ∀ next ∈ rest.head?, next.piece.opensWithDigit = false) := by
  constructor
  · intro h
    refine ⟨h.tail, h.head_isDigitFree, fun hs next hnext => ?_⟩
    rcases List.head?_eq_some_iff.1 hnext with ⟨rest, rfl⟩
    exact h.next_not_opensWithDigit hs
  · rintro ⟨hrest, hfree, hclosed⟩
    refine ⟨?_, ?_, ?_⟩
    · cases rest with
      | nil => exact .singleton s
      | cons next rest =>
        refine List.isChain_cons_cons.2 ⟨?_, hrest.apart⟩
        rintro ⟨hs, hnext⟩
        have hopen := hclosed hs next rfl
        cases hp : next.piece with
        | literal text => simp [Segment.isField, hp] at hnext
        | percent => simp [Segment.isField, hp] at hnext
        | field f => simp [Piece.opensWithDigit, hp] at hopen
    · intro before field after heq hfield x hx
      cases before with
      | nil => cases hx
      | cons y before =>
        rcases List.cons.inj heq with ⟨rfl, rfl⟩
        rcases List.mem_cons.1 hx with rfl | hx
        · exact hfree ⟨field, by simp, hfield⟩
        · exact hrest.digitFree before field after rfl hfield x hx
    · intro before field next after heq hfield hlast
      cases before with
      | nil =>
        rcases List.cons.inj heq with ⟨rfl, rfl⟩
        exact hclosed hfield next rfl
      | cons y before =>
        rcases List.cons.inj heq with ⟨rfl, rfl⟩
        exact hrest.closed before field next after rfl hfield hlast

instance Separable.decidable : (segments : List Segment) → Decidable (Separable segments)
  | [] => isTrue .nil
  | _ :: rest =>
    have := Separable.decidable rest
    decidable_of_iff _ separable_cons_iff.symm

end VersionStamp
