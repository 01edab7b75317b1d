/-! # Overwriting a run of a list

Rings keep their cells in a list of fixed length. `splice` overwrites a run of cells in place: what
lies before and after the run stays, and so does the length as long as the run fits.
-/

namespace Waterfall

variable {α : Type}

/-- `cells` with the run that begins at `start` overwritten by `block`. -/
def splice (cells : List α) (start : Nat) (block : List α) : List α :=
  cells.take start ++ (block ++ cells.drop (start + block.length))

/-- Overwriting a run that fits keeps the number of cells. -/
theorem length_splice {cells : List α} {start : Nat} {block : List α}
    (fits : start + block.length ≤ cells.length) :
    (splice cells start block).length = cells.length := by
  simp only [splice, List.length_append, List.length_take, List.length_drop]
  omega

end Waterfall
