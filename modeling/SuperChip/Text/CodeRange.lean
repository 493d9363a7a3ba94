/-!
# Classes of characters as ranges of code points

A class of the character standard is a table of ranges, both ends included.
Membership reads the table from the front.
-/

namespace SuperChip

/-- A range of code points, from its first to its last member. -/
abbrev CodeRange := Nat × Nat

namespace CodeRange

/-- Whether a character lies in a range. -/
def contains (range : CodeRange) (c : Char) : Bool :=
  decide (range.1 ≤ c.toNat) && decide (c.toNat ≤ range.2)

/-- Whether a character lies in one of the ranges. -/
def anyContains (ranges : List CodeRange) (c : Char) : Bool :=
  ranges.any fun range => range.contains c

end CodeRange

end SuperChip
