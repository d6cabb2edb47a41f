/-!
# Closed ranges of code points

The character properties of this library are lists of ranges. A range covers the code points from
its first to its last.
-/

namespace IdentityDocs.Text

/-- A closed range of code points: the first and the last. -/
abbrev CodeRange := Nat × Nat

/-- Whether one of the ranges holds the character. -/
def CodeRange.covers (ranges : List CodeRange) (c : Char) : Bool :=
  ranges.any fun r => decide (r.1 ≤ c.toNat) && decide (c.toNat ≤ r.2)

theorem CodeRange.covers_iff {ranges : List CodeRange} {c : Char} :
    CodeRange.covers ranges c = true ↔ ∃ r ∈ ranges, r.1 ≤ c.toNat ∧ c.toNat ≤ r.2 := by
  simp [CodeRange.covers, List.any_eq_true]

end IdentityDocs.Text
