import Waterfall.Scene
import Waterfall.Spectrum.Layout

/-! # Index lists

Vertex `row * rowLength + bin` is the point `bin` of row `row`, the oldest row first. Every style
draws the same vertices and differs in the list of vertex numbers that connects them. Vertex numbers
have 32 bits: a number is truncated when it is made, and a step to a neighbour that does not fit is
a breach.
-/

namespace Waterfall.Mesh

/-- The two triangles of the grid cell with the corner `corner` and rows `rowLength` apart. -/
def cell (rowLength corner : Nat) : Except Breach (List Nat) := do
  let below ← Word.addIndex corner rowLength
  let diagonal ← Word.addIndex below 1
  let right ← Word.addIndex corner 1
  return [corner, below, diagonal, corner, diagonal, right]

/-- The triangulated grid. -/
def surface (rows rowLength : Nat) : Except Breach (List Nat) :=
  (List.range (rows - 1)).flatMapM fun row =>
    (List.range (rowLength - 1)).flatMapM fun bin =>
      cell (Word.truncate rowLength) (Word.truncate (row * rowLength + bin))

/-- The segments of every row. -/
def lines (rows rowLength : Nat) : Except Breach (List Nat) :=
  (List.range rows).flatMapM fun row =>
    (List.range (rowLength - 1)).flatMapM fun bin => do
      let start := Word.truncate (row * rowLength + bin)
      return [start, ← Word.addIndex start 1]

/-- Every vertex once. -/
def points (count : Nat) : List Nat := List.range (Word.truncate count)

/-- The fan over the oldest ring, which fills the centre of the circle. -/
def fan (rowLength : Nat) : Except Breach (List Nat) :=
  (List.range' 1 (rowLength - 2)).flatMapM fun bin => do
    let bin := Word.truncate bin
    return [0, bin, ← Word.addIndex bin 1]

/-- The two triangles between neighbouring points of one ring and the ring around it. -/
def ringCell (here next rowLength : Nat) : Except Breach (List Nat) := do
  let hereOuter ← Word.addIndex here rowLength
  let nextOuter ← Word.addIndex next rowLength
  return [here, hereOuter, nextOuter, here, next, nextOuter]

/-- The bands between consecutive rings; a ring of one point has none. -/
def bands (rows rowLength : Nat) : Except Breach (List Nat) :=
  if rowLength < 2 then .ok []
  else
    (List.range (rows - 1)).flatMapM fun row =>
      (List.range rowLength).flatMapM fun bin =>
        ringCell (Word.truncate (row * rowLength + bin))
          (Word.truncate (row * rowLength + (bin + 1) % rowLength)) (Word.truncate rowLength)

/-- The rings around a filled centre. -/
def circle (rows rowLength : Nat) : Except Breach (List Nat) := do
  return (← fan rowLength) ++ (← bands rows rowLength)

/-- The two triangles between one pair of ribbon edges and the next pair. -/
def ribbonCell (first : Nat) : Except Breach (List Nat) := do
  let second ← Word.addIndex first 1
  let fourth ← Word.addIndex first 3
  let third ← Word.addIndex first 2
  return [first, second, fourth, first, fourth, third]

/-- The ribbon whose edges are consecutive pairs of `count` vertices. -/
def spiral (count : Nat) : Except Breach (List Nat) :=
  (List.range (count / 2 - 1)).flatMapM fun pair => ribbonCell (Word.truncate (2 * pair))

/-- The number of indices of a style. -/
def indexCount (style : VisualStyle) (layout : Layout) : Except Breach Nat := do
  let ⟨rows, rowLength⟩ := layout
  match style with
  | .surface => Word.mul (← Word.mul 6 (rows - 1)) (rowLength - 1)
  | .lines => Word.mul (← Word.mul 2 rows) (rowLength - 1)
  | .points => Word.mul rows rowLength
  | .circle =>
    let rings ← if rowLength < 2 then pure 0 else do
      Word.mul (← Word.mul 6 rowLength) (rows - 1)
    Word.add (← Word.mul 3 (rowLength - 2)) rings
  | .spiral => Word.mul 6 ((← layout.points) / 2 - 1)

/-- The largest number of indices of any style. -/
def maxIndexCount (layout : Layout) : Except Breach Nat := do
  return (← VisualStyle.all.mapM fun style => indexCount style layout).foldl max 0

/-- The bytes of one index. -/
def indexBytes : Nat := 4

/-- The indices that draw a layout in a style, provided that their list can be stored. -/
def generate (style : VisualStyle) (layout : Layout) : Except Breach (List Nat) := do
  Word.reserve (← indexCount style layout) indexBytes
  match style with
  | .surface => surface layout.rows layout.rowLength
  | .lines => lines layout.rows layout.rowLength
  | .points => return points (← layout.points)
  | .circle => circle layout.rows layout.rowLength
  | .spiral => spiral (← layout.points)

end Waterfall.Mesh
