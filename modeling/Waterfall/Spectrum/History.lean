import Waterfall.Spectrum.Layout
import Waterfall.Splice

/-! # The history of spectrum rows

The history keeps the newest rows of a fixed layout. Its points lie in one list of row slots that
start out as zero rows; a push overwrites the slot of the oldest row, and readers see the slots from
the oldest to the newest, so unfilled slots read as zero rows ahead of the real ones.
-/

namespace Waterfall

variable {α : Type}

/-- The newest rows of a layout, in a ring of row slots. -/
structure History (α : Type) where
  points : List α
  layout : Layout
  /-- The slot that holds the oldest row. -/
  oldest : Nat
  /-- The slots that hold pushed rows. -/
  filled : Nat
  length_points : points.length = layout.rows * layout.rowLength
  oldest_lt : oldest < layout.rows
  filled_le : filled ≤ layout.rows

namespace History

/-- A history of zero rows. -/
def create (zero : α) (layout : Layout) (rows_pos : 0 < layout.rows) : History α where
  points := List.replicate (layout.rows * layout.rowLength) zero
  layout := layout
  oldest := 0
  filled := 0
  length_points := List.length_replicate
  oldest_lt := rows_pos
  filled_le := Nat.zero_le _

/-- The bytes of one point. -/
def pointBytes : Nat := 8

/-- A history of zero rows, provided that the layout is not empty and that it can be stored. -/
def allocate (zero : α) (layout : Layout) : Except Breach (History α) :=
  if nonempty : 0 < layout.rows ∧ 0 < layout.rowLength then do
    let points ← layout.points
    Word.reserve points pointBytes
    return create zero layout nonempty.1
  else .error .emptyLayout

/-- The rows pushed so far, at most the rows of the layout. -/
def rowCount (history : History α) : Nat := history.filled

/-- The number of points, pushed or zero. -/
def pointCount (history : History α) : Nat := history.points.length

private theorem slot_end_le {slot rows : Nat} (rowLength : Nat) (inside : slot < rows) :
    slot * rowLength + rowLength ≤ rows * rowLength := by
  rw [← Nat.succ_mul]
  exact Nat.mul_le_mul_right _ inside

/-- Append a row as the newest and forget the oldest; a row of another length changes nothing. -/
def push (history : History α) (row : List α) : Except Violation (History α) :=
  if fits : row.length = history.layout.rowLength then
    .ok { history with
      points := splice history.points (history.oldest * history.layout.rowLength) row
      oldest := (history.oldest + 1) % history.layout.rows
      filled := min (history.filled + 1) history.layout.rows
      length_points := by
        rw [length_splice, history.length_points]
        rw [fits, history.length_points]
        exact slot_end_le _ history.oldest_lt
      oldest_lt := Nat.mod_lt _ (Nat.lt_of_le_of_lt (Nat.zero_le _) history.oldest_lt)
      filled_le := Nat.min_le_right _ _ }
  else .error (.rowLength history.layout.rowLength row.length)

/-- All points from the oldest to the newest row, as the two runs that hold them. -/
def runs (history : History α) : List α × List α :=
  let split := history.oldest * history.layout.rowLength
  (history.points.drop split, history.points.take split)

/-- The row at a position, counted from the oldest slot. -/
def row? (history : History α) (index : Nat) : Option (List α) :=
  if index < history.layout.rows then
    let slot := (history.oldest + index) % history.layout.rows
    some ((history.points.drop (slot * history.layout.rowLength)).take history.layout.rowLength)
  else none

/-- The pushed rows, oldest first. -/
def rows (history : History α) : List (List α) :=
  (List.range' (history.layout.rows - history.filled) history.filled).filterMap history.row?

end History

end Waterfall
