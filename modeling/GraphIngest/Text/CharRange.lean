/-!
# Character classes given by code point ranges

A class is a list of inclusive code point ranges. The tables of this library are sorted, but
membership does not rely on it.
-/

namespace GraphIngest.Text

/-- An inclusive range of code points. -/
abbrev CharRange := Nat × Nat

/-- A code point lies in one of the ranges. -/
def inRanges (ranges : List CharRange) (c : Char) : Bool :=
  ranges.any fun r => r.1 ≤ c.toNat && c.toNat ≤ r.2

theorem inRanges_iff {ranges : List CharRange} {c : Char} :
    inRanges ranges c = true ↔ ∃ r ∈ ranges, r.1 ≤ c.toNat ∧ c.toNat ≤ r.2 := by
  simp [inRanges]

end GraphIngest.Text
