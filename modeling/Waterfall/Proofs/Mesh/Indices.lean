import Waterfall.Mesh
import Waterfall.Proofs.Outcome
import Waterfall.Proofs.Word

/-! # The indices of a style in plain numbers

For a layout whose points can be numbered with 32 bits no index is truncated and no step to a
neighbour is a breach, so the index lists can be read as lists of points of the grid: each is a
sequence of cells, and each cell names the points of its corners. Every index is that of a point.
-/

namespace Waterfall

/-- Steps that succeed on every item of a list succeed one after the other. -/
theorem flatMapM_of_ok {ε α β : Type} {step : α → Except ε (List β)} {made : α → List β}
    {list : List α} (each : ∀ item ∈ list, step item = .ok (made item)) :
    list.flatMapM step = .ok (list.flatMap made) := by
  have loops (before : List (List β)) :
      List.flatMapM.loop step list before = .ok (before.reverse.flatten ++ list.flatMap made) := by
    induction list generalizing before with
    | nil => simp [List.flatMapM.loop]; rfl
    | cons item rest ih =>
      have rest_each := fun other member => each other (List.mem_cons_of_mem item member)
      rw [List.flatMapM.loop, each item List.mem_cons_self, ok_bind, ih rest_each]
      simp
  exact loops []

namespace Mesh

open Word (truncate_of_lt addIndex_of_lt)

variable {rows rowLength row bin : Nat}

/-- The number of the point `bin` of a row. -/
def vertex (rowLength row bin : Nat) : Nat := row * rowLength + bin

theorem vertex_lt (row_lt : row < rows) (bin_lt : bin < rowLength) :
    vertex rowLength row bin < rows * rowLength :=
  calc
    row * rowLength + bin < row * rowLength + rowLength := Nat.add_lt_add_left bin_lt _
    _ = (row + 1) * rowLength := (Nat.succ_mul row rowLength).symm
    _ ≤ rows * rowLength := Nat.mul_le_mul_right rowLength row_lt

theorem vertex_succ_row (rowLength row bin : Nat) :
    vertex rowLength (row + 1) bin = vertex rowLength row bin + rowLength := by
  rw [vertex, vertex, Nat.succ_mul, Nat.add_right_comm]

/-- Different points have different numbers. -/
theorem vertex_eq_iff {otherRow other : Nat} (bin_lt : bin < rowLength)
    (other_lt : other < rowLength) :
    vertex rowLength row bin = vertex rowLength otherRow other ↔ row = otherRow ∧ bin = other := by
  constructor
  · intro same
    rw [vertex, vertex, Nat.add_comm, Nat.add_comm (otherRow * rowLength)] at same
    have bins := congrArg (· % rowLength) same
    have rows := congrArg (· / rowLength) same
    simp only [Nat.add_mul_mod_self_right, Nat.mod_eq_of_lt bin_lt, Nat.mod_eq_of_lt other_lt]
      at bins
    have rowLength_pos : 0 < rowLength := Nat.zero_lt_of_lt bin_lt
    simp only [Nat.add_mul_div_right _ _ rowLength_pos, Nat.div_eq_of_lt bin_lt,
      Nat.div_eq_of_lt other_lt, Nat.zero_add] at rows
    exact ⟨rows, bins⟩
  · rintro ⟨rfl, rfl⟩
    rfl

/-- The two triangles between four neighbours of the grid. -/
def gridCell (rowLength row bin : Nat) : List Nat :=
  [vertex rowLength row bin, vertex rowLength (row + 1) bin, vertex rowLength (row + 1) (bin + 1),
    vertex rowLength row bin, vertex rowLength (row + 1) (bin + 1), vertex rowLength row (bin + 1)]

/-- The grid of all points. -/
def grid (rows rowLength : Nat) : List Nat :=
  (List.range (rows - 1)).flatMap fun row =>
    (List.range (rowLength - 1)).flatMap fun bin => gridCell rowLength row bin

/-- The segment between two neighbours of a row. -/
def segment (rowLength row bin : Nat) : List Nat :=
  [vertex rowLength row bin, vertex rowLength row (bin + 1)]

/-- The segments of all rows. -/
def segments (rows rowLength : Nat) : List Nat :=
  (List.range rows).flatMap fun row =>
    (List.range (rowLength - 1)).flatMap fun bin => segment rowLength row bin

/-- A triangle between the first point of the oldest ring and two neighbours on it. -/
def fanCell (rowLength bin : Nat) : List Nat :=
  [vertex rowLength 0 0, vertex rowLength 0 bin, vertex rowLength 0 (bin + 1)]

/-- The two triangles between two neighbours on a ring and those on the ring around it. -/
def bandCell (rowLength row bin : Nat) : List Nat :=
  let next := (bin + 1) % rowLength
  [vertex rowLength row bin, vertex rowLength (row + 1) bin, vertex rowLength (row + 1) next,
    vertex rowLength row bin, vertex rowLength row next, vertex rowLength (row + 1) next]

/-- The disk of all rings. -/
def disk (rows rowLength : Nat) : List Nat :=
  ((List.range' 1 (rowLength - 2)).flatMap fun bin => fanCell rowLength bin) ++
    if rowLength < 2 then []
    else
      (List.range (rows - 1)).flatMap fun row =>
        (List.range rowLength).flatMap fun bin => bandCell rowLength row bin

/-- The two triangles between one pair of points and the next pair. -/
def pairCell (pair : Nat) : List Nat :=
  [2 * pair, 2 * pair + 1, 2 * pair + 3, 2 * pair, 2 * pair + 3, 2 * pair + 2]

/-- The ribbon over `count` points. -/
def ribbon (count : Nat) : List Nat := (List.range (count / 2 - 1)).flatMap pairCell

/-- The indices of a style. -/
def indices (style : VisualStyle) (layout : Layout) : List Nat :=
  match style with
  | .surface => grid layout.rows layout.rowLength
  | .lines => segments layout.rows layout.rowLength
  | .points => List.range (layout.rows * layout.rowLength)
  | .circle => disk layout.rows layout.rowLength
  | .spiral => ribbon (layout.rows * layout.rowLength)

section

variable (fits : rows * rowLength < Word.indexLimit)

include fits

theorem cell_eq (row_lt : row + 1 < rows) (bin_lt : bin + 1 < rowLength) :
    cell (Word.truncate rowLength) (Word.truncate (vertex rowLength row bin)) =
      .ok (gridCell rowLength row bin) := by
  have below := vertex_succ_row rowLength row bin
  have diagonal : vertex rowLength (row + 1) (bin + 1) =
      vertex rowLength row bin + rowLength + 1 := congrArg (· + 1) below
  have diagonal_lt : vertex rowLength (row + 1) (bin + 1) < rows * rowLength :=
    vertex_lt row_lt bin_lt
  rw [cell, truncate_of_lt (by omega), truncate_of_lt (by omega), addIndex_of_lt (by omega),
    ok_bind, addIndex_of_lt (by omega), ok_bind, addIndex_of_lt (by omega), ok_bind, gridCell,
    diagonal, below]
  rfl

theorem surface_eq : surface rows rowLength = .ok (grid rows rowLength) := by
  refine flatMapM_of_ok fun row row_member => flatMapM_of_ok fun bin bin_member => ?_
  have row_lt := List.mem_range.mp row_member
  have bin_lt := List.mem_range.mp bin_member
  exact cell_eq fits (by omega) (by omega)

theorem lines_eq : lines rows rowLength = .ok (segments rows rowLength) := by
  refine flatMapM_of_ok fun row row_member => flatMapM_of_ok fun bin bin_member => ?_
  have bin_lt := List.mem_range.mp bin_member
  have right : vertex rowLength row (bin + 1) < rows * rowLength :=
    vertex_lt (List.mem_range.mp row_member) (by omega)
  rw [vertex, ← Nat.add_assoc] at right
  dsimp only
  rw [truncate_of_lt (by omega), addIndex_of_lt (by omega), ok_bind]
  rfl

theorem points_eq : points (rows * rowLength) = List.range (rows * rowLength) := by
  rw [points, truncate_of_lt fits]

theorem fan_eq (rows_pos : 0 < rows) :
    fan rowLength = .ok ((List.range' 1 (rowLength - 2)).flatMap (fanCell rowLength)) := by
  refine flatMapM_of_ok fun bin member => ?_
  obtain ⟨_, bin_lt⟩ := List.mem_range'_1.mp member
  have right : vertex rowLength 0 (bin + 1) < rows * rowLength := vertex_lt rows_pos (by omega)
  rw [vertex, Nat.zero_mul, Nat.zero_add] at right
  dsimp only
  rw [truncate_of_lt (by omega), addIndex_of_lt (by omega), ok_bind, fanCell]
  simp only [vertex, Nat.zero_mul, Nat.zero_add]
  rfl

theorem ringCell_eq (row_lt : row + 1 < rows) (bin_lt : bin < rowLength) :
    ringCell (Word.truncate (vertex rowLength row bin))
        (Word.truncate (vertex rowLength row ((bin + 1) % rowLength))) (Word.truncate rowLength) =
      .ok (bandCell rowLength row bin) := by
  have outer {point : Nat} (point_lt : point < rowLength) :
      vertex rowLength row point + rowLength < rows * rowLength := by
    rw [← vertex_succ_row]
    exact vertex_lt row_lt point_lt
  have here := outer bin_lt
  have next := outer (Nat.mod_lt (bin + 1) (Nat.zero_lt_of_lt bin_lt))
  rw [ringCell, truncate_of_lt (by omega), truncate_of_lt (by omega), truncate_of_lt (by omega),
    addIndex_of_lt (by omega), ok_bind, addIndex_of_lt (by omega), ok_bind, bandCell]
  simp only [vertex_succ_row]
  rfl

theorem circle_eq (rows_pos : 0 < rows) :
    circle rows rowLength = .ok (disk rows rowLength) := by
  have bands_eq : bands rows rowLength = .ok (if rowLength < 2 then []
      else
        (List.range (rows - 1)).flatMap fun row =>
          (List.range rowLength).flatMap fun bin => bandCell rowLength row bin) := by
    rw [bands]
    split
    · rfl
    · refine flatMapM_of_ok fun row row_member => flatMapM_of_ok fun bin bin_member => ?_
      have row_lt := List.mem_range.mp row_member
      exact ringCell_eq fits (by omega) (List.mem_range.mp bin_member)
  rw [circle, fan_eq fits rows_pos, ok_bind, bands_eq, ok_bind]
  rfl

end

theorem ribbonCell_eq {count pair : Nat} (fits : count < Word.indexLimit)
    (pair_lt : 2 * pair + 3 < count) :
    ribbonCell (Word.truncate (2 * pair)) = .ok (pairCell pair) := by
  rw [ribbonCell, truncate_of_lt (by omega), addIndex_of_lt (by omega), ok_bind,
    addIndex_of_lt (by omega), ok_bind, addIndex_of_lt (by omega), ok_bind]
  rfl

theorem spiral_eq {count : Nat} (fits : count < Word.indexLimit) :
    spiral count = .ok (ribbon count) := by
  refine flatMapM_of_ok fun pair member => ?_
  have pair_lt := List.mem_range.mp member
  exact ribbonCell_eq fits (by omega)

theorem lt_of_mem_gridCell (row_lt : row + 1 < rows) (bin_lt : bin + 1 < rowLength) :
    ∀ index ∈ gridCell rowLength row bin, index < rows * rowLength := by
  intro index member
  simp only [gridCell, List.mem_cons, List.not_mem_nil, or_false] at member
  rcases member with rfl | rfl | rfl | rfl | rfl | rfl <;> exact vertex_lt (by omega) (by omega)

theorem lt_of_mem_segment (row_lt : row < rows) (bin_lt : bin + 1 < rowLength) :
    ∀ index ∈ segment rowLength row bin, index < rows * rowLength := by
  intro index member
  simp only [segment, List.mem_cons, List.not_mem_nil, or_false] at member
  rcases member with rfl | rfl <;> exact vertex_lt row_lt (by omega)

theorem lt_of_mem_fanCell (rows_pos : 0 < rows) (bin_lt : bin + 1 < rowLength) :
    ∀ index ∈ fanCell rowLength bin, index < rows * rowLength := by
  intro index member
  simp only [fanCell, List.mem_cons, List.not_mem_nil, or_false] at member
  rcases member with rfl | rfl | rfl <;> exact vertex_lt rows_pos (by omega)

theorem lt_of_mem_bandCell (row_lt : row + 1 < rows) (bin_lt : bin < rowLength) :
    ∀ index ∈ bandCell rowLength row bin, index < rows * rowLength := by
  have next_lt : (bin + 1) % rowLength < rowLength := Nat.mod_lt _ (Nat.zero_lt_of_lt bin_lt)
  intro index member
  simp only [bandCell, List.mem_cons, List.not_mem_nil, or_false] at member
  rcases member with rfl | rfl | rfl | rfl | rfl | rfl <;> exact vertex_lt (by omega) ‹_›

theorem lt_of_mem_pairCell {count pair : Nat} (pair_lt : 2 * pair + 3 < count) :
    ∀ index ∈ pairCell pair, index < count := by
  intro index member
  simp only [pairCell, List.mem_cons, List.not_mem_nil, or_false] at member
  omega

variable {layout : Layout}

/-- Every index is the number of a point. -/
theorem index_lt (style : VisualStyle) (rows_pos : 0 < layout.rows) :
    ∀ index ∈ indices style layout, index < layout.rows * layout.rowLength := by
  intro index member
  cases style with
  | surface =>
    obtain ⟨row, row_member, member⟩ := List.mem_flatMap.mp member
    obtain ⟨bin, bin_member, member⟩ := List.mem_flatMap.mp member
    have row_lt := List.mem_range.mp row_member
    have bin_lt := List.mem_range.mp bin_member
    exact lt_of_mem_gridCell (by omega) (by omega) index member
  | lines =>
    obtain ⟨row, row_member, member⟩ := List.mem_flatMap.mp member
    obtain ⟨bin, bin_member, member⟩ := List.mem_flatMap.mp member
    have bin_lt := List.mem_range.mp bin_member
    exact lt_of_mem_segment (List.mem_range.mp row_member) (by omega) index member
  | points => exact List.mem_range.mp member
  | circle =>
    obtain centre | around := List.mem_append.mp member
    · obtain ⟨bin, bin_member, member⟩ := List.mem_flatMap.mp centre
      obtain ⟨_, bin_lt⟩ := List.mem_range'_1.mp bin_member
      exact lt_of_mem_fanCell rows_pos (by omega) index member
    · split at around
      · cases around
      · obtain ⟨row, row_member, member⟩ := List.mem_flatMap.mp around
        obtain ⟨bin, bin_member, member⟩ := List.mem_flatMap.mp member
        have row_lt := List.mem_range.mp row_member
        exact lt_of_mem_bandCell (by omega) (List.mem_range.mp bin_member) index member
  | spiral =>
    obtain ⟨pair, pair_member, member⟩ := List.mem_flatMap.mp member
    have pair_lt := List.mem_range.mp pair_member
    exact lt_of_mem_pairCell (by omega) index member

theorem length_grid (rows rowLength : Nat) :
    (grid rows rowLength).length = 6 * (rows - 1) * (rowLength - 1) := by
  simp only [grid, gridCell, List.length_flatMap, List.map_const', List.sum_replicate_nat,
    List.length_range, List.length_cons, List.length_nil, Nat.zero_add, Nat.reduceAdd]
  ac_rfl

theorem length_segments (rows rowLength : Nat) :
    (segments rows rowLength).length = 2 * rows * (rowLength - 1) := by
  simp only [segments, segment, List.length_flatMap, List.map_const', List.sum_replicate_nat,
    List.length_range, List.length_cons, List.length_nil, Nat.zero_add, Nat.reduceAdd]
  ac_rfl

theorem length_disk (rows rowLength : Nat) :
    (disk rows rowLength).length =
      3 * (rowLength - 2) + if rowLength < 2 then 0 else 6 * rowLength * (rows - 1) := by
  have centre : ((List.range' 1 (rowLength - 2)).flatMap (fanCell rowLength)).length =
      3 * (rowLength - 2) := by
    simp only [fanCell, List.length_flatMap, List.map_const', List.sum_replicate_nat,
      List.length_range', List.length_cons, List.length_nil, Nat.zero_add, Nat.reduceAdd]
    ac_rfl
  rw [disk, List.length_append, centre]
  congr 1
  split
  · rfl
  · simp only [bandCell, List.length_flatMap, List.map_const', List.sum_replicate_nat,
      List.length_range, List.length_cons, List.length_nil, Nat.zero_add, Nat.reduceAdd]
    ac_rfl

theorem length_ribbon (count : Nat) : (ribbon count).length = 6 * (count / 2 - 1) := by
  simp only [ribbon, pairCell, List.length_flatMap, List.map_const', List.sum_replicate_nat,
    List.length_range, List.length_cons, List.length_nil, Nat.zero_add, Nat.reduceAdd]
  ac_rfl

/-- There are at most six indices for each point. -/
theorem length_indices_le (style : VisualStyle) (rows_pos : 0 < layout.rows) :
    (indices style layout).length ≤ 6 * (layout.rows * layout.rowLength) := by
  obtain ⟨rows, rowLength⟩ := layout
  dsimp only at rows_pos ⊢
  cases style with
  | surface =>
    have cells : (rows - 1) * (rowLength - 1) ≤ rows * rowLength :=
      Nat.mul_le_mul (Nat.sub_le rows 1) (Nat.sub_le rowLength 1)
    dsimp only [indices]
    rw [length_grid, Nat.mul_assoc]
    exact Nat.mul_le_mul_left 6 cells
  | lines =>
    have segments : rows * (rowLength - 1) ≤ rows * rowLength :=
      Nat.mul_le_mul_left rows (Nat.sub_le rowLength 1)
    dsimp only [indices]
    rw [length_segments, Nat.mul_assoc]
    omega
  | points =>
    dsimp only [indices]
    rw [List.length_range]
    omega
  | circle =>
    obtain ⟨rings, rfl⟩ := Nat.exists_eq_add_one.mpr rows_pos
    dsimp only [indices]
    rw [length_disk, Nat.add_sub_cancel, Nat.succ_mul rings rowLength,
      Nat.mul_assoc 6 rowLength rings, Nat.mul_comm rowLength rings]
    split <;> omega
  | spiral =>
    dsimp only [indices]
    rw [length_ribbon]
    omega

theorem indexCount_eq (style : VisualStyle) (rows_pos : 0 < layout.rows)
    (rowLength_pos : 0 < layout.rowLength)
    (fits : layout.rows * layout.rowLength < Word.indexLimit) :
    indexCount style layout = .ok (indices style layout).length := by
  have limits : 6 * Word.indexLimit < Word.countLimit := by decide
  have count_le := length_indices_le style rows_pos
  have rows_le : layout.rows ≤ layout.rows * layout.rowLength :=
    Nat.le_mul_of_pos_right _ rowLength_pos
  have rowLength_le : layout.rowLength ≤ layout.rows * layout.rowLength :=
    Nat.le_mul_of_pos_left _ rows_pos
  obtain ⟨rows, rowLength⟩ := layout
  dsimp only at *
  cases style with
  | surface =>
    dsimp only [indices, indexCount] at count_le ⊢
    rw [length_grid] at count_le ⊢
    rw [Word.mul_of_lt (by omega), ok_bind, Word.mul_of_lt (by omega)]
  | lines =>
    dsimp only [indices, indexCount] at count_le ⊢
    rw [length_segments] at count_le ⊢
    rw [Word.mul_of_lt (by omega), ok_bind, Word.mul_of_lt (by omega)]
  | points =>
    rw [indices, List.length_range]
    exact Word.mul_of_lt (by omega)
  | circle =>
    dsimp only [indices, indexCount] at count_le ⊢
    rw [length_disk] at count_le ⊢
    by_cases narrow : rowLength < 2
    · rw [if_pos narrow] at count_le ⊢
      rw [if_pos narrow]
      refine (ok_bind 0 _).trans ?_
      rw [Word.mul_of_lt (by omega), ok_bind, Word.add_of_lt (by omega)]
    · rw [if_neg narrow] at count_le ⊢
      rw [if_neg narrow, Word.mul_of_lt (by omega), ok_bind, Word.mul_of_lt (by omega), ok_bind,
        Word.mul_of_lt (by omega), ok_bind, Word.add_of_lt (by omega)]
  | spiral =>
    dsimp only [indices, indexCount, Layout.points] at count_le ⊢
    rw [length_ribbon] at count_le ⊢
    rw [Word.mul_of_lt (by omega), ok_bind, Word.mul_of_lt (by omega)]

/-- The indices of a layout whose points can be numbered are those of its points. -/
theorem generate_eq (style : VisualStyle) (rows_pos : 0 < layout.rows)
    (rowLength_pos : 0 < layout.rowLength)
    (fits : layout.rows * layout.rowLength < Word.indexLimit) :
    generate style layout = .ok (indices style layout) := by
  have limits : 24 * Word.indexLimit < Word.storageLimit ∧ Word.indexLimit < Word.countLimit := by
    decide
  have count_le := length_indices_le style rows_pos
  have stored : Word.reserve (indices style layout).length indexBytes = .ok () :=
    if_pos (by rw [indexBytes]; omega)
  have counted : layout.points = .ok (layout.rows * layout.rowLength) :=
    Word.mul_of_lt (Nat.lt_trans fits limits.2)
  unfold generate
  rw [indexCount_eq style rows_pos rowLength_pos fits, ok_bind, stored, ok_bind]
  cases style with
  | surface => exact surface_eq fits
  | lines => exact lines_eq fits
  | points =>
    dsimp only
    rw [counted, ok_bind, points_eq fits]
    rfl
  | circle => exact circle_eq fits rows_pos
  | spiral =>
    dsimp only
    rw [counted, ok_bind, spiral_eq fits]
    rfl

end Mesh

end Waterfall
