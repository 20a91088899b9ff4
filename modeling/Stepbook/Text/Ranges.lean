/-!
# Ranges of code points

Classes of characters are given as data: as ranges of code points, both ends
included, in ascending order.

## Main definitions

* `CodeRanges` — a class of characters.
* `CodeRanges.contains` — membership.
-/

namespace Stepbook.Text

/-- A class of characters: the ranges of its code points, both ends included. -/
abbrev CodeRanges := List (Nat × Nat)

/-- Whether a character belongs to a class. -/
def CodeRanges.contains (ranges : CodeRanges) (c : Char) : Bool :=
  ranges.any fun r => decide (r.1 ≤ c.toNat) && decide (c.toNat ≤ r.2)

end Stepbook.Text
