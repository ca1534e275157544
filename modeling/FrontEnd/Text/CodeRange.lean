/-
FrontEnd/Text/CodeRange.lean

Sets of characters as lists of code point ranges.  A property of the Unicode
character database, version 17.0, is such a list; one module holds the ranges of
one property and membership is decided here, once for all of them.
-/

namespace FrontEnd

/-- A set of code points: inclusive ranges in ascending order. -/
abbrev CodeRanges := List (Nat × Nat)

/-- Whether the code point of `c` lies in one of the ranges. -/
def CodeRanges.contains (ranges : CodeRanges) (c : Char) : Bool :=
  ranges.any fun range => range.1 ≤ c.toNat && c.toNat ≤ range.2

/-- Membership read as a statement: some range has `c` between its ends. -/
theorem CodeRanges.contains_iff {ranges : CodeRanges} {c : Char} :
    ranges.contains c = true ↔ ∃ range ∈ ranges, range.1 ≤ c.toNat ∧ c.toNat ≤ range.2 := by
  simp [CodeRanges.contains]

end FrontEnd
