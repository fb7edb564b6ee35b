/-!
# Ranges of characters

Unicode properties are given as lists of ranges of code points, both ends included.

Main definitions:

* `CharRange`: two code points.
* `inRanges`: whether a character lies in one of some ranges.
-/

namespace LmntalServer

/-- The first and the last code point of a range. -/
abbrev CharRange := Nat × Nat

/-- Whether a character lies in one of some ranges. -/
def inRanges (ranges : List CharRange) (c : Char) : Bool :=
  ranges.any fun r => r.1 ≤ c.toNat && c.toNat ≤ r.2

end LmntalServer
