/-! Sets of characters given by ranges of code points, ends included. -/

namespace VersionStamp.Text

abbrev CodeRange := Nat × Nat

def CodeRange.has (r : CodeRange) (c : Char) : Bool :=
  r.1 ≤ c.toNat && c.toNat ≤ r.2

def inRanges (ranges : List CodeRange) (c : Char) : Bool :=
  ranges.any (·.has c)

theorem inRanges_iff {ranges : List CodeRange} {c : Char} :
    inRanges ranges c = true ↔ ∃ r ∈ ranges, r.1 ≤ c.toNat ∧ c.toNat ≤ r.2 := by
  simp [inRanges, CodeRange.has]

end VersionStamp.Text
