/-! # Ranges of code points

A class of characters is listed as ascending ranges of code points, each with its first and last
member.
-/

namespace Waterfall.Text

/-- A class of characters, as ranges of code points. -/
abbrev CodeRanges := List (Nat × Nat)

namespace CodeRanges

/-- Whether a character belongs to the class. -/
def contains (ranges : CodeRanges) (character : Char) : Bool :=
  ranges.any fun (first, last) =>
    decide (first ≤ character.toNat) && decide (character.toNat ≤ last)

/-- The number of code points in the class. -/
def count (ranges : CodeRanges) : Nat :=
  ranges.foldl (fun total (first, last) => total + (last + 1 - first)) 0

/-- Whether the ranges ascend, with a gap between any two of them. -/
def isAscending : CodeRanges → Bool
  | (first, last) :: (next, other) :: rest =>
    decide (first ≤ last) && decide (last + 1 < next) && isAscending ((next, other) :: rest)
  | [(first, last)] => decide (first ≤ last)
  | [] => true

end CodeRanges

end Waterfall.Text
