import Waterfall.Word

/-! # The shape of the history

A history is a grid of `rows` rows of `rowLength` points each. Its number of points is a 64-bit
count, so a grid that is too large is a breach wherever the count is taken.
-/

namespace Waterfall

/-- The number of rows and the number of points in each. -/
structure Layout where
  rows : Nat
  rowLength : Nat
deriving DecidableEq, Repr, Inhabited

/-- The number of points of the whole grid. -/
def Layout.points (layout : Layout) : Except Breach Nat := Word.mul layout.rows layout.rowLength

end Waterfall
