/-!
# Sets of characters given by ranges of code points

Unicode gives its character properties as ranges. A property is a list of such
ranges, and a character has it when its code point lies in one of them.
-/

namespace CommandChains.Text

/-- Closed ranges of code points, each from its first to its last. -/
abbrev CodeRanges := List (Nat × Nat)

namespace CodeRanges

/-- Whether a character lies in one of the ranges. -/
def contains (ranges : CodeRanges) (c : Char) : Bool :=
  ranges.any fun range => decide (range.1 ≤ c.toNat) && decide (c.toNat ≤ range.2)

theorem contains_iff {ranges : CodeRanges} {c : Char} :
    ranges.contains c = true ↔ ∃ range ∈ ranges, range.1 ≤ c.toNat ∧ c.toNat ≤ range.2 := by
  simp [contains]

end CodeRanges

end CommandChains.Text
