import Mathlib.Data.List.ProdSigma
import Waterfall.Proofs.Mesh.Winding

/-! # The grid and the ribbon are sheets

The surface style draws a tile for every cell of the grid, the spiral style one between every pair
of points and the next pair. Each edge is drawn once in either direction by the tiles on its two
sides, so what is drawn in one direction only is the border: the outline of the grid, and the two
ends and both rails of the ribbon.
-/

namespace Waterfall.Mesh

variable {rows rowLength row bin : Nat}

/-! ## The grid -/

/-- The number of a point that is given by its row and bin. -/
def number (rowLength : Nat) (point : Nat × Nat) : Nat := vertex rowLength point.1 point.2

theorem number_inj {first second : Nat × Nat} (first_lt : first.2 < rowLength)
    (second_lt : second.2 < rowLength) :
    number rowLength first = number rowLength second ↔ first = second := by
  rw [number, number, vertex_eq_iff first_lt second_lt, Prod.ext_iff]

/-- The tile between four neighbours of the grid, by its first corner. -/
def gridTile (rowLength : Nat) (place : Nat × Nat) : Tile :=
  ⟨number rowLength place, number rowLength (place.1 + 1, place.2),
    number rowLength (place.1 + 1, place.2 + 1), number rowLength (place.1, place.2 + 1)⟩

/-- The first corners of the grid's tiles. -/
def gridPlaces (rows rowLength : Nat) : List (Nat × Nat) :=
  List.range (rows - 1) ×ˢ List.range (rowLength - 1)

/-- The triangles of the grid. -/
def gridTriangles (rows rowLength : Nat) : List Triangle :=
  halvesOf (gridTile rowLength) (gridPlaces rows rowLength)

theorem mem_gridPlaces : (row, bin) ∈ gridPlaces rows rowLength ↔
    row + 1 < rows ∧ bin + 1 < rowLength := by
  rw [gridPlaces, List.mem_product, List.mem_range, List.mem_range]
  omega

theorem nodup_gridPlaces (rows rowLength : Nat) : (gridPlaces rows rowLength).Nodup :=
  List.nodup_range.product List.nodup_range

/-- The indices of the grid are the corners of its triangles. -/
theorem grid_eq (rows rowLength : Nat) :
    grid rows rowLength = (gridTriangles rows rowLength).flatMap Triangle.corners := by
  rw [gridTriangles, halvesOf, gridPlaces, List.flatMap_assoc]
  change _ = (List.flatMap _ _).flatMap _
  rw [List.flatMap_assoc]
  simp only [List.flatMap_map]
  rfl

/-- What the tile at a place draws from one of its corners to another: down its first column and up
the other one, to the right along its second row and to the left along the first one, and along its
diagonal forth and back. -/
inductive Stroke : (place start stop : Nat × Nat) → Prop
  | down {row bin : Nat} : Stroke (row, bin) (row, bin) (row + 1, bin)
  | right {row bin : Nat} : Stroke (row, bin) (row + 1, bin) (row + 1, bin + 1)
  | back {row bin : Nat} : Stroke (row, bin) (row + 1, bin + 1) (row, bin)
  | forth {row bin : Nat} : Stroke (row, bin) (row, bin) (row + 1, bin + 1)
  | up {row bin : Nat} : Stroke (row, bin) (row + 1, bin + 1) (row, bin + 1)
  | left {row bin : Nat} : Stroke (row, bin) (row, bin + 1) (row, bin)

namespace Stroke

variable {place other start stop : Nat × Nat}

/-- Each stroke is one tile's. -/
theorem unique (stroke : Stroke place start stop) (again : Stroke other start stop) :
    place = other := by
  cases stroke <;> cases again <;> rfl

theorem within (stroke : Stroke place start stop) (place_lt : place.2 + 1 < rowLength) :
    start.2 < rowLength ∧ stop.2 < rowLength := by
  cases stroke <;> dsimp only at place_lt ⊢ <;> omega

end Stroke

theorem mem_sides_gridTile {place side : Nat × Nat} :
    side ∈ (gridTile rowLength place).sides ↔
      ∃ start stop, Stroke place start stop ∧
        side = (number rowLength start, number rowLength stop) := by
  rw [Tile.mem_sides]
  constructor
  · rintro (rfl | rfl | rfl | rfl | rfl | rfl)
    · exact ⟨_, _, .down, rfl⟩
    · exact ⟨_, _, .right, rfl⟩
    · exact ⟨_, _, .back, rfl⟩
    · exact ⟨_, _, .forth, rfl⟩
    · exact ⟨_, _, .up, rfl⟩
    · exact ⟨_, _, .left, rfl⟩
  · rintro ⟨start, stop, stroke, rfl⟩
    cases stroke <;> simp only [gridTile, true_or, or_true]

/-- The corners of a tile of the grid are four points. -/
theorem nodup_corners_gridTile (bin_lt : bin + 1 < rowLength) :
    (gridTile rowLength (row, bin)).corners.Nodup := by
  have here_lt : bin < rowLength := Nat.lt_of_succ_lt bin_lt
  simp only [Tile.corners, gridTile, List.nodup_cons, List.mem_cons, List.not_mem_nil, or_false,
    not_or, List.nodup_nil, not_false_eq_true, and_true, number, vertex_eq_iff here_lt here_lt,
    vertex_eq_iff here_lt bin_lt, vertex_eq_iff bin_lt bin_lt]
  omega

/-- No directed edge belongs to two tiles of the grid. -/
theorem wound_gridTriangles (rows rowLength : Nat) : Wound (gridTriangles rows rowLength) := by
  apply wound_halvesOf (nodup_gridPlaces rows rowLength)
  · rintro ⟨row, bin⟩ present
    exact nodup_corners_gridTile (mem_gridPlaces.mp present).2
  · rintro ⟨row, bin⟩ present ⟨otherRow, other⟩ other_present side in_place in_other
    obtain ⟨start, stop, stroke, rfl⟩ := mem_sides_gridTile.mp in_place
    obtain ⟨otherStart, otherStop, again, same⟩ := mem_sides_gridTile.mp in_other
    obtain ⟨start_lt, stop_lt⟩ := stroke.within (mem_gridPlaces.mp present).2
    obtain ⟨otherStart_lt, otherStop_lt⟩ := again.within (mem_gridPlaces.mp other_present).2
    rw [Prod.mk.injEq, number_inj start_lt otherStart_lt, number_inj stop_lt otherStop_lt] at same
    obtain ⟨rfl, rfl⟩ := same
    exact stroke.unique again

/-- The directed edges of the grid are the strokes of its tiles. -/
theorem mem_sidesOf_gridTriangles {side : Nat × Nat} :
    side ∈ sidesOf (gridTriangles rows rowLength) ↔
      ∃ place ∈ gridPlaces rows rowLength, ∃ start stop, Stroke place start stop ∧
        side = (number rowLength start, number rowLength stop) := by
  rw [gridTriangles, mem_sidesOf_halvesOf]
  simp only [mem_sides_gridTile]

/-- Between two points, the grid draws the strokes of its tiles. -/
theorem number_mem_sidesOf {start stop : Nat × Nat} (start_lt : start.2 < rowLength)
    (stop_lt : stop.2 < rowLength) :
    (number rowLength start, number rowLength stop) ∈ sidesOf (gridTriangles rows rowLength) ↔
      ∃ place ∈ gridPlaces rows rowLength, Stroke place start stop := by
  rw [mem_sidesOf_gridTriangles]
  constructor
  · rintro ⟨⟨row, bin⟩, present, otherStart, otherStop, stroke, same⟩
    obtain ⟨otherStart_lt, otherStop_lt⟩ := stroke.within (mem_gridPlaces.mp present).2
    rw [Prod.mk.injEq, number_inj start_lt otherStart_lt, number_inj stop_lt otherStop_lt] at same
    obtain ⟨rfl, rfl⟩ := same
    exact ⟨_, present, stroke⟩
  · rintro ⟨place, present, stroke⟩
    exact ⟨place, present, start, stop, stroke, rfl⟩

/-- An edge joins neighbours along the outline of the grid: along its oldest or newest row, or along
its first or last column. -/
def OnOutline (rows rowLength : Nat) (edge : Sym2 Nat) : Prop :=
  ∃ row bin, row < rows ∧ bin < rowLength ∧
    ((row = 0 ∨ row + 1 = rows) ∧ bin + 1 < rowLength ∧
        edge = s(vertex rowLength row bin, vertex rowLength row (bin + 1)) ∨
      (bin = 0 ∨ bin + 1 = rowLength) ∧ row + 1 < rows ∧
        edge = s(vertex rowLength row bin, vertex rowLength (row + 1) bin))

/-- What only one tile draws lies on the outline. -/
theorem onOutline_of_stroke {start stop : Nat × Nat} (row_lt : row + 1 < rows)
    (bin_lt : bin + 1 < rowLength) (stroke : Stroke (row, bin) start stop)
    (alone : ∀ place ∈ gridPlaces rows rowLength, ¬Stroke place stop start) :
    OnOutline rows rowLength s(number rowLength start, number rowLength stop) := by
  cases stroke with
  | down =>
    cases bin with
    | zero => exact ⟨row, 0, by omega, by omega, .inr ⟨.inl rfl, row_lt, rfl⟩⟩
    | succ before => exact absurd .up (alone (row, before) (mem_gridPlaces.mpr (by omega)))
  | right =>
    by_cases last : row + 2 = rows
    · exact ⟨row + 1, bin, by omega, by omega, .inl ⟨.inr last, bin_lt, rfl⟩⟩
    · exact absurd .left (alone (row + 1, bin) (mem_gridPlaces.mpr (by omega)))
  | back => exact absurd .forth (alone (row, bin) (mem_gridPlaces.mpr ⟨row_lt, bin_lt⟩))
  | forth => exact absurd .back (alone (row, bin) (mem_gridPlaces.mpr ⟨row_lt, bin_lt⟩))
  | up =>
    by_cases last : bin + 2 = rowLength
    · exact ⟨row, bin + 1, by omega, bin_lt, .inr ⟨.inr last, row_lt, Sym2.eq_swap⟩⟩
    · exact absurd .down (alone (row, bin + 1) (mem_gridPlaces.mpr (by omega)))
  | left =>
    cases row with
    | zero => exact ⟨0, bin, by omega, by omega, .inl ⟨.inl rfl, bin_lt, Sym2.eq_swap⟩⟩
    | succ before => exact absurd .right (alone (before, bin) (mem_gridPlaces.mpr (by omega)))

/-- Neighbours along the outline are joined by a single stroke. -/
theorem stroke_of_onOutline (tall : 2 ≤ rows) (wide : 2 ≤ rowLength) {edge : Sym2 Nat}
    (outside : OnOutline rows rowLength edge) :
    ∃ start stop : Nat × Nat, start.2 < rowLength ∧ stop.2 < rowLength ∧
      edge = s(number rowLength start, number rowLength stop) ∧
      (∃ place ∈ gridPlaces rows rowLength, Stroke place start stop) ∧
      ∀ place ∈ gridPlaces rows rowLength, ¬Stroke place stop start := by
  have stroke_at {row bin : Nat} (row_lt : row + 1 < rows) (bin_lt : bin + 1 < rowLength)
      {start stop : Nat × Nat} (stroke : Stroke (row, bin) start stop) :
      ∃ place ∈ gridPlaces rows rowLength, Stroke place start stop :=
    ⟨(row, bin), mem_gridPlaces.mpr ⟨row_lt, bin_lt⟩, stroke⟩
  obtain ⟨row, bin, row_lt, bin_lt, ⟨rfl | last, next_lt, rfl⟩ | ⟨rfl | last, next_lt, rfl⟩⟩ :=
    outside
  · refine ⟨(0, bin + 1), (0, bin), next_lt, bin_lt, Sym2.eq_swap, stroke_at tall next_lt .left, ?_⟩
    rintro place present ⟨⟩
  · obtain ⟨before, rfl⟩ : ∃ before, row = before + 1 := ⟨row - 1, by omega⟩
    refine ⟨(before + 1, bin), (before + 1, bin + 1), bin_lt, next_lt, rfl,
      stroke_at row_lt next_lt .right, ?_⟩
    rintro place present ⟨⟩
    have := mem_gridPlaces.mp present
    omega
  · refine ⟨(row, 0), (row + 1, 0), bin_lt, bin_lt, rfl, stroke_at next_lt wide .down, ?_⟩
    rintro place present ⟨⟩
  · obtain ⟨before, rfl⟩ : ∃ before, bin = before + 1 := ⟨bin - 1, by omega⟩
    refine ⟨(row + 1, before + 1), (row, before + 1), bin_lt, bin_lt, Sym2.eq_swap,
      stroke_at next_lt bin_lt .up, ?_⟩
    rintro place present ⟨⟩
    have := mem_gridPlaces.mp present
    omega

/-- An edge of the grid belongs to a single triangle exactly if it lies on the outline. -/
theorem incidence_gridTriangles (tall : 2 ≤ rows) (wide : 2 ≤ rowLength) (edge : Sym2 Nat) :
    incidence (gridTriangles rows rowLength) edge = 1 ↔ OnOutline rows rowLength edge := by
  rw [(wound_gridTriangles rows rowLength).incidence_eq_one_iff]
  constructor
  · rintro ⟨_, _, rfl, drawn, alone⟩
    obtain ⟨⟨row, bin⟩, present, start, stop, stroke, same⟩ := mem_sidesOf_gridTriangles.mp drawn
    obtain ⟨rfl, rfl⟩ := Prod.mk.inj same
    obtain ⟨row_lt, bin_lt⟩ := mem_gridPlaces.mp present
    refine onOutline_of_stroke row_lt bin_lt stroke fun place place_present back => alone ?_
    exact mem_sidesOf_gridTriangles.mpr ⟨place, place_present, stop, start, back, rfl⟩
  · intro outside
    obtain ⟨start, stop, start_lt, stop_lt, rfl, drawn, alone⟩ :=
      stroke_of_onOutline tall wide outside
    refine ⟨_, _, rfl, (number_mem_sidesOf start_lt stop_lt).mpr drawn, fun back => ?_⟩
    obtain ⟨place, present, stroke⟩ := (number_mem_sidesOf stop_lt start_lt).mp back
    exact alone place present stroke

theorem mem_corners_gridTile {point : Nat × Nat} (point_lt : point.2 < rowLength)
    (bin_lt : bin + 1 < rowLength) :
    number rowLength point ∈ (gridTile rowLength (row, bin)).corners ↔
      (point.1 = row ∨ point.1 = row + 1) ∧ (point.2 = bin ∨ point.2 = bin + 1) := by
  have here_lt : bin < rowLength := Nat.lt_of_succ_lt bin_lt
  simp only [Tile.corners, gridTile, List.mem_cons, List.not_mem_nil, or_false, number,
    vertex_eq_iff point_lt here_lt, vertex_eq_iff point_lt bin_lt]
  omega

/-- A cell of the grid holds just the two halves of its tile. -/
theorem filter_gridTriangles (row_lt : row + 1 < rows) (bin_lt : bin + 1 < rowLength) :
    ((gridTriangles rows rowLength).filter fun triangle =>
        triangle.corners ⊆ (gridTile rowLength (row, bin)).corners) =
      (gridTile rowLength (row, bin)).halves := by
  apply filter_halvesOf (nodup_gridPlaces rows rowLength) (mem_gridPlaces.mpr ⟨row_lt, bin_lt⟩)
  -- Both halves have the ends of the diagonal, and these determine the place of the tile.
  rintro ⟨otherRow, other⟩ present half member inside
  have other_lt := (mem_gridPlaces.mp present).2
  have ends : number rowLength (otherRow, other) ∈ half.corners ∧
      number rowLength (otherRow + 1, other + 1) ∈ half.corners := by
    simp only [Tile.halves, gridTile, List.mem_cons, List.not_mem_nil, or_false] at member
    rcases member with rfl | rfl <;>
      simp only [Triangle.corners, List.mem_cons, true_or, or_true, and_self]
  have first := (mem_corners_gridTile (by dsimp only; omega) bin_lt).mp (inside ends.1)
  have third := (mem_corners_gridTile (by dsimp only; omega) bin_lt).mp (inside ends.2)
  rw [Prod.mk.injEq]
  omega

/-! ## The ribbon -/

/-- The tile between a pair of points and the next pair. -/
def ribbonTile (pair : Nat) : Tile := ⟨2 * pair, 2 * pair + 1, 2 * pair + 3, 2 * pair + 2⟩

/-- The triangles of the ribbon over that many pairs. -/
def ribbonTriangles (pairs : Nat) : List Triangle := halvesOf ribbonTile (List.range (pairs - 1))

variable {pairs pair : Nat}

/-- The indices of the ribbon are the corners of its triangles. -/
theorem ribbon_eq (count : Nat) :
    ribbon count = (ribbonTriangles (count / 2)).flatMap Triangle.corners := by
  rw [ribbonTriangles, halvesOf, List.flatMap_assoc]
  rfl

/-- No directed edge belongs to two tiles of the ribbon. -/
theorem wound_ribbonTriangles (pairs : Nat) : Wound (ribbonTriangles pairs) := by
  apply wound_halvesOf List.nodup_range
  · intro pair _
    simp only [Tile.corners, ribbonTile, List.nodup_cons, List.mem_cons, List.not_mem_nil, or_false,
      not_or, List.nodup_nil, not_false_eq_true, and_true]
    omega
  · intro pair _ other _ side in_pair in_other
    rw [Tile.mem_sides] at in_pair in_other
    rcases in_pair with rfl | rfl | rfl | rfl | rfl | rfl <;>
      simp only [ribbonTile, Prod.mk.injEq] at in_other <;>
      omega

/-- A point belongs to the ribbon exactly if it has a partner. -/
theorem mem_ribbon {count index : Nat} (long : 2 ≤ count / 2) :
    index ∈ ribbon count ↔ index < 2 * (count / 2) := by
  rw [ribbon, List.mem_flatMap]
  constructor
  · rintro ⟨pair, present, member⟩
    rw [List.mem_range] at present
    simp only [pairCell, List.mem_cons, List.not_mem_nil, or_false] at member
    omega
  · intro index_lt
    refine ⟨min (index / 2) (count / 2 - 2), List.mem_range.mpr (by omega), ?_⟩
    simp only [pairCell, List.mem_cons, List.not_mem_nil, or_false]
    omega

/-- An edge ends the ribbon if it is its first or last rung or one of its rails. -/
def OnRim (pairs : Nat) (edge : Sym2 Nat) : Prop :=
  edge = s(0, 1) ∨ edge = s(2 * pairs - 2, 2 * pairs - 1) ∨
    ∃ point, point + 2 < 2 * pairs ∧ edge = s(point, point + 2)

/-- The directed edges of the ribbon: its rungs in both directions, its odd rail away from the first
pair, its even rail towards it and the diagonals in both directions. -/
theorem mem_sidesOf_ribbonTriangles {start stop : Nat} :
    (start, stop) ∈ sidesOf (ribbonTriangles pairs) ↔
      ∃ pair, pair + 1 < pairs ∧
        (start = 2 * pair ∧ stop = 2 * pair + 1 ∨ start = 2 * pair + 1 ∧ stop = 2 * pair + 3 ∨
          start = 2 * pair + 3 ∧ stop = 2 * pair ∨ start = 2 * pair ∧ stop = 2 * pair + 3 ∨
          start = 2 * pair + 3 ∧ stop = 2 * pair + 2 ∨ start = 2 * pair + 2 ∧ stop = 2 * pair) := by
  rw [ribbonTriangles, mem_sidesOf_halvesOf]
  simp only [List.mem_range, Nat.lt_sub_iff_add_lt, Tile.mem_sides, ribbonTile, Prod.mk.injEq]

/-- What only one tile draws lies on the rim. -/
theorem onRim_of_alone {start stop : Nat} (drawn : (start, stop) ∈ sidesOf (ribbonTriangles pairs))
    (alone : (stop, start) ∉ sidesOf (ribbonTriangles pairs)) : OnRim pairs s(start, stop) := by
  rw [mem_sidesOf_ribbonTriangles] at drawn alone
  obtain ⟨pair, pair_lt, ⟨rfl, rfl⟩ | ⟨rfl, rfl⟩ | ⟨rfl, rfl⟩ | ⟨rfl, rfl⟩ | ⟨rfl, rfl⟩ |
    ⟨rfl, rfl⟩⟩ := drawn
  · cases pair with
    | zero => exact .inl rfl
    | succ before => exact absurd ⟨before, by omega, by omega⟩ alone
  · exact .inr (.inr ⟨2 * pair + 1, by omega, rfl⟩)
  · exact absurd ⟨pair, pair_lt, by omega⟩ alone
  · exact absurd ⟨pair, pair_lt, by omega⟩ alone
  · by_cases last : pair + 2 = pairs
    · subst last
      exact .inr (.inl Sym2.eq_swap)
    · exact absurd ⟨pair + 1, by omega, by omega⟩ alone
  · exact .inr (.inr ⟨2 * pair, by omega, Sym2.eq_swap⟩)

/-- The rim is drawn in one direction. -/
theorem drawn_of_onRim (long : 2 ≤ pairs) {edge : Sym2 Nat} (outside : OnRim pairs edge) :
    ∃ start stop, edge = s(start, stop) ∧ (start, stop) ∈ sidesOf (ribbonTriangles pairs) ∧
      (stop, start) ∉ sidesOf (ribbonTriangles pairs) := by
  simp only [mem_sidesOf_ribbonTriangles]
  obtain rfl | rfl | ⟨point, point_lt, rfl⟩ := outside
  · refine ⟨0, 1, rfl, ⟨0, by omega, by omega⟩, ?_⟩
    rintro ⟨pair, _, back⟩
    omega
  · refine ⟨2 * pairs - 1, 2 * pairs - 2, Sym2.eq_swap, ⟨pairs - 2, by omega, by omega⟩, ?_⟩
    rintro ⟨pair, _, back⟩
    omega
  · rcases Nat.mod_two_eq_zero_or_one point with even | odd
    · refine ⟨point + 2, point, Sym2.eq_swap, ⟨point / 2, by omega, by omega⟩, ?_⟩
      rintro ⟨pair, _, back⟩
      omega
    · refine ⟨point, point + 2, rfl, ⟨point / 2, by omega, by omega⟩, ?_⟩
      rintro ⟨pair, _, back⟩
      omega

/-- An edge of the ribbon belongs to a single triangle exactly if it lies on the rim. -/
theorem incidence_ribbonTriangles (long : 2 ≤ pairs) (edge : Sym2 Nat) :
    incidence (ribbonTriangles pairs) edge = 1 ↔ OnRim pairs edge := by
  rw [(wound_ribbonTriangles pairs).incidence_eq_one_iff]
  constructor
  · rintro ⟨start, stop, rfl, drawn, alone⟩
    exact onRim_of_alone drawn alone
  · exact drawn_of_onRim long

/-- Between two pairs lie just the two halves of their tile. -/
theorem filter_ribbonTriangles (pair_lt : pair + 1 < pairs) :
    ((ribbonTriangles pairs).filter fun triangle =>
        triangle.corners ⊆ (ribbonTile pair).corners) = (ribbonTile pair).halves := by
  apply filter_halvesOf List.nodup_range (List.mem_range.mpr (by omega))
  intro other _ half member inside
  simp only [Tile.halves, ribbonTile, List.mem_cons, List.not_mem_nil, or_false] at member
  rcases member with rfl | rfl <;>
    simp only [Triangle.corners, Tile.corners, ribbonTile, List.cons_subset, List.mem_cons,
      List.not_mem_nil, or_false, List.nil_subset, and_true] at inside <;>
    omega

/-! ## The index lists -/

variable {layout : Layout}

/-- The indices of the surface style are those of the grid. Only for rows without points there may be
too many rows to calculate the number of indices. -/
theorem generate_surface (fits : layout.rows * layout.rowLength < Word.indexLimit) :
    generate .surface layout = .error .overflow ∧ layout.rowLength = 0 ∧
        Word.countLimit ≤ 6 * (layout.rows - 1) ∨
      generate .surface layout = .ok (grid layout.rows layout.rowLength) := by
  have limits : 24 * Word.indexLimit < Word.storageLimit ∧
      6 * Word.indexLimit < Word.countLimit := by decide
  obtain ⟨rows, rowLength⟩ := layout
  dsimp only at *
  unfold generate indexCount
  dsimp only
  by_cases few : 6 * (rows - 1) < Word.countLimit
  · right
    have cells : (rows - 1) * (rowLength - 1) ≤ rows * rowLength :=
      Nat.mul_le_mul (Nat.sub_le rows 1) (Nat.sub_le rowLength 1)
    have count_eq : 6 * (rows - 1) * (rowLength - 1) = 6 * ((rows - 1) * (rowLength - 1)) :=
      Nat.mul_assoc 6 _ _
    have stored : Word.reserve (6 * (rows - 1) * (rowLength - 1)) indexBytes = .ok () :=
      if_pos (by rw [indexBytes]; omega)
    rw [Word.mul_of_lt few, ok_bind, Word.mul_of_lt (by omega), ok_bind, stored, ok_bind]
    exact surface_eq fits
  · left
    have many : Word.mul 6 (rows - 1) = .error .overflow := if_neg few
    refine ⟨by rw [many]; rfl, ?_, Nat.le_of_not_lt few⟩
    by_contra nonempty
    have rows_le : rows ≤ rows * rowLength :=
      Nat.le_mul_of_pos_right _ (Nat.pos_of_ne_zero nonempty)
    omega

/-- The indices of the spiral style are those of the ribbon. -/
theorem generate_spiral (fits : layout.rows * layout.rowLength < Word.indexLimit) :
    generate .spiral layout = .ok (ribbon (layout.rows * layout.rowLength)) := by
  have limits : 24 * Word.indexLimit < Word.storageLimit ∧
      6 * Word.indexLimit < Word.countLimit := by decide
  have counted : layout.points = .ok (layout.rows * layout.rowLength) :=
    Word.mul_of_lt (by omega)
  have stored : Word.reserve (6 * (layout.rows * layout.rowLength / 2 - 1)) indexBytes = .ok () :=
    if_pos (by rw [indexBytes]; omega)
  unfold generate indexCount
  dsimp only
  rw [counted, ok_bind, Word.mul_of_lt (by omega), ok_bind, stored, ok_bind, ok_bind]
  exact spiral_eq fits

/-- Indices that draw a sheet: whole triangles, none of them degenerate, that are wound alike and
joined in pairs along the edges that they share. -/
structure Sheet (list : List Nat) : Prop where
  whole : (triangles list).flatMap Triangle.corners = list
  wound : Wound (triangles list)
  opposed : (triangles list).Pairwise Triangle.Opposed
  joined : ∀ triangle ∈ triangles list, ∀ edge ∈ triangle.edges,
    incidence (triangles list) edge = 1 ∨ incidence (triangles list) edge = 2

theorem sheet_of_wound {list : List Triangle} (wound : Wound list) :
    Sheet (list.flatMap Triangle.corners) := by
  have same := triangles_flatMap list
  constructor
  · rw [same]
  · rwa [same]
  · rw [same]
    exact wound.opposed
  · rw [same]
    exact fun triangle present edge member => wound.incidence_cases present member

/-- The surface and the spiral are sheets for every layout whose points can be numbered, so each
direction of an edge is drawn at most once. The surface of at least two rows and two bins ends at the
outline of the grid, and each of its cells holds the two halves of one tile. The spiral of at least
two pairs has all points but an odd last one, ends at its rim, and holds the two halves of one tile
between each pair and the next. -/
theorem surface_and_spiral_are_sheets
    (fits : layout.rows * layout.rowLength < Word.indexLimit) :
    (generate .surface layout = .error .overflow ∧ layout.rowLength = 0 ∧
        Word.countLimit ≤ 6 * (layout.rows - 1) ∨
      ∃ list, generate .surface layout = .ok list ∧ Sheet list ∧
        (2 ≤ layout.rows → 2 ≤ layout.rowLength →
          (∀ edge, incidence (triangles list) edge = 1 ↔
            OnOutline layout.rows layout.rowLength edge) ∧
          ∀ row bin, row + 1 < layout.rows → bin + 1 < layout.rowLength →
            ((triangles list).filter fun triangle =>
                triangle.corners ⊆ (gridTile layout.rowLength (row, bin)).corners) =
              (gridTile layout.rowLength (row, bin)).halves)) ∧
    ∃ list, generate .spiral layout = .ok list ∧ Sheet list ∧
      ∀ pairs, pairs = layout.rows * layout.rowLength / 2 → 2 ≤ pairs →
        (∀ index, index ∈ list ↔ index < 2 * pairs) ∧
        (∀ edge, incidence (triangles list) edge = 1 ↔ OnRim pairs edge) ∧
        ∀ pair, pair + 1 < pairs →
          ((triangles list).filter fun triangle =>
            triangle.corners ⊆ (ribbonTile pair).corners) = (ribbonTile pair).halves := by
  constructor
  · obtain many | generated := generate_surface fits
    · exact .inl many
    · refine .inr ⟨_, generated, ?_⟩
      rw [grid_eq, triangles_flatMap]
      refine ⟨sheet_of_wound (wound_gridTriangles _ _), fun tall wide => ⟨?_, ?_⟩⟩
      · exact incidence_gridTriangles tall wide
      · intro row bin row_lt bin_lt
        exact filter_gridTriangles row_lt bin_lt
  · refine ⟨_, generate_spiral fits, ?_, ?_⟩
    · rw [ribbon_eq]
      exact sheet_of_wound (wound_ribbonTriangles _)
    · rintro pairs rfl long
      refine ⟨fun index => mem_ribbon long, ?_⟩
      rw [ribbon_eq, triangles_flatMap]
      exact ⟨incidence_ribbonTriangles long, fun pair pair_lt => filter_ribbonTriangles pair_lt⟩

/-- Of three rows of three points, the surface joins the last point of a row to the one below it and
not to the first point of the next row, and the spiral leaves the ninth point out. -/
theorem sheets_of_nine_points :
    3 * 3 < Word.indexLimit ∧
      (∃ list, generate .surface ⟨3, 3⟩ = .ok list ∧ incidence (triangles list) s(2, 5) = 1 ∧
        incidence (triangles list) s(2, 3) ≠ 1 ∧
        ((triangles list).filter fun triangle => triangle.corners ⊆ [4, 7, 8, 5]) =
          [⟨4, 7, 8⟩, ⟨4, 8, 5⟩]) ∧
      ∃ list, generate .spiral ⟨3, 3⟩ = .ok list ∧ 7 ∈ list ∧ 8 ∉ list ∧
        incidence (triangles list) s(6, 7) = 1 ∧ incidence (triangles list) s(5, 7) = 1 ∧
        ((triangles list).filter fun triangle => triangle.corners ⊆ [4, 5, 7, 6]) =
          [⟨4, 5, 7⟩, ⟨4, 7, 6⟩] := by
  have limit : 3 * 3 < Word.indexLimit := by decide
  obtain ⟨surface, spiral⟩ := @surface_and_spiral_are_sheets ⟨3, 3⟩ limit
  dsimp only at surface spiral
  refine ⟨limit, ?_, ?_⟩
  · obtain ⟨_, empty, _⟩ | ⟨list, generated, _, parts⟩ := surface
    · cases empty
    · obtain ⟨outline, cells⟩ := parts (by decide) (by decide)
      refine ⟨list, generated, ?_, ?_, cells 1 1 (by decide) (by decide)⟩
      · rw [outline]
        exact ⟨0, 2, by decide, by decide, .inr (by decide)⟩
      · rw [Ne, outline]
        rintro ⟨row, bin, _, _, ⟨_, _, same⟩ | ⟨_, _, same⟩⟩ <;>
          simp only [Sym2.eq_iff, vertex] at same <;>
          omega
  · obtain ⟨list, generated, _, parts⟩ := spiral
    obtain ⟨points, rim, cells⟩ := parts 4 rfl (by decide)
    refine ⟨list, generated, ?_, ?_, ?_, ?_, cells 2 (by decide)⟩
    · rw [points]
      decide
    · rw [points]
      decide
    · rw [rim]
      exact .inr (.inl rfl)
    · rw [rim]
      exact .inr (.inr ⟨5, by decide, rfl⟩)

end Waterfall.Mesh
