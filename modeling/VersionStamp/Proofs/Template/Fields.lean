import Mathlib.Data.List.Basic
import VersionStamp.Template.Basic

/-! The fields of a template. -/

namespace VersionStamp

@[simp] theorem Piece.isField_literal (text : List Char) : (Piece.literal text).isField = false := rfl

@[simp] theorem Piece.isField_percent : Piece.percent.isField = false := rfl

@[simp] theorem Piece.isField_field (f : Field) : (Piece.field f).isField = true := rfl

theorem Segment.field?_eq_none_iff {s : Segment} : s.field? = none ↔ s.isField = false := by
  simp [field?, isField, Piece.isField]

theorem Segment.field?_eq_some_iff {s : Segment} {f : Field} :
    s.field? = some f ↔ s.piece = .field f := by
  cases h : s.piece <;> simp [field?, Piece.field?, h]

/-- The fields of segments, in their order. -/
def fieldsOf (segments : List Segment) : List Field := segments.filterMap (·.field?)

theorem mem_fieldsOf {segments : List Segment} {f : Field} :
    f ∈ fieldsOf segments ↔ ∃ segment ∈ segments, segment.piece = .field f := by
  simp [fieldsOf, Segment.field?_eq_some_iff]

theorem fieldsOf_cons_of_none {s : Segment} (h : s.field? = none) (segments : List Segment) :
    fieldsOf (s :: segments) = fieldsOf segments := by
  simp [fieldsOf, h]

theorem fieldsOf_cons_of_some {s : Segment} {f : Field} (h : s.field? = some f)
    (segments : List Segment) : fieldsOf (s :: segments) = f :: fieldsOf segments := by
  simp [fieldsOf, h]

theorem Template.uses_iff {t : Template} {f : Field} : t.uses f = true ↔ f ∈ fieldsOf t.segments := by
  simp [uses, fields, fieldsOf]

end VersionStamp
