import Mathlib.Algebra.BigOperators.Group.List.Basic
import Waterfall.Proofs.Mesh.Primitives

/-! # The circle is a closed disk

The fan covers the oldest ring, and every band joins a ring to the one around it. The edges of their
triangles are of four kinds: chords of the oldest ring, arcs of the rings, spokes and diagonals of
the bands. Each band turns the arcs at which the disk ended into inner edges and ends with the arcs
of the next ring, so after all bands the newest ring alone is the border.
-/

namespace Waterfall.Mesh

variable {rows rowLength row bin : Nat}

/-- The point that follows on a ring, the first one after the last. -/
def next (rowLength bin : Nat) : Nat := (bin + 1) % rowLength

theorem next_lt (bin_lt : bin < rowLength) : next rowLength bin < rowLength :=
  Nat.mod_lt _ (Nat.zero_lt_of_lt bin_lt)

theorem next_cases (bin_lt : bin < rowLength) :
    bin + 1 < rowLength ∧ next rowLength bin = bin + 1 ∨
      bin + 1 = rowLength ∧ next rowLength bin = 0 := by
  rcases Nat.lt_or_eq_of_le (Nat.succ_le_of_lt bin_lt) with inside | last
  · exact .inl ⟨inside, Nat.mod_eq_of_lt inside⟩
  · exact .inr ⟨last, by rw [next, ← last, Nat.mod_self]⟩

/-- Once round a ring, every point follows one other. -/
theorem map_next_perm (rowLength : Nat) :
    ((List.range rowLength).map (next rowLength)).Perm (List.range rowLength) := by
  cases rowLength with
  | zero => rfl
  | succ last =>
    have before : (List.range last).map (next (last + 1)) = (List.range last).map Nat.succ := by
      apply List.map_congr_left
      intro bin member
      have bin_lt := List.mem_range.mp member
      exact Nat.mod_eq_of_lt (by omega)
    rw [List.range_succ, List.map_append, before, ← List.range_succ, List.range_succ_eq_map,
      List.map_singleton, next, Nat.mod_self]
    exact List.perm_append_singleton 0 _

/-- An edge of the disk, by its kind and the point that it begins at. -/
inductive Side
  /-- Between the first point of the oldest ring and one that is no neighbour of it. -/
  | chord (bin : Nat)
  /-- Between neighbours on a ring. -/
  | arc (row bin : Nat)
  /-- Between the same points of a ring and the ring around it. -/
  | spoke (row bin : Nat)
  /-- Between a point and the one that follows its neighbour on the ring around it. -/
  | diagonal (row bin : Nat)
deriving DecidableEq

/-- The edge between two points. -/
def link (rowLength : Nat) (first second : Nat × Nat) : Sym2 Nat :=
  s(vertex rowLength first.1 first.2, vertex rowLength second.1 second.2)

/-- A link has the points that it joins. -/
theorem link_eq_iff {first second third fourth : Nat × Nat} (first_lt : first.2 < rowLength)
    (second_lt : second.2 < rowLength) (third_lt : third.2 < rowLength)
    (fourth_lt : fourth.2 < rowLength) :
    link rowLength first second = link rowLength third fourth ↔
      first = third ∧ second = fourth ∨ first = fourth ∧ second = third := by
  rw [link, link, Sym2.eq_iff, vertex_eq_iff first_lt third_lt, vertex_eq_iff second_lt fourth_lt,
    vertex_eq_iff first_lt fourth_lt, vertex_eq_iff second_lt third_lt]
  simp only [Prod.ext_iff]

namespace Side

/-- The point that a side begins at. -/
def start : Side → Nat × Nat
  | chord _ => (0, 0)
  | arc row bin | spoke row bin | diagonal row bin => (row, bin)

/-- The point that a side ends at. -/
def stop (rowLength : Nat) : Side → Nat × Nat
  | chord bin => (0, bin)
  | arc row bin => (row, next rowLength bin)
  | spoke row bin => (row + 1, bin)
  | diagonal row bin => (row + 1, next rowLength bin)

/-- The edge that a side is. -/
def edge (rowLength : Nat) (side : Side) : Sym2 Nat :=
  link rowLength side.start (side.stop rowLength)

/-- A side begins at a point of its ring, and a chord is no arc. -/
def OnRing (rowLength : Nat) : Side → Prop
  | chord bin => 2 ≤ bin ∧ bin + 1 < rowLength
  | arc _ bin | spoke _ bin | diagonal _ bin => bin < rowLength

/-- On rings of at least three points, different sides are different edges. -/
theorem edge_inj (wide : 3 ≤ rowLength) {first second : Side} (first_on : first.OnRing rowLength)
    (second_on : second.OnRing rowLength)
    (same : first.edge rowLength = second.edge rowLength) : first = second := by
  have bounds {side : Side} (on : side.OnRing rowLength) :
      side.start.2 < rowLength ∧ (side.stop rowLength).2 < rowLength := by
    cases side <;> simp only [OnRing, start, stop] at on ⊢
    · omega
    · exact ⟨on, next_lt on⟩
    · exact ⟨on, on⟩
    · exact ⟨on, next_lt on⟩
  have first_next := next_cases (bounds first_on).1
  have second_next := next_cases (bounds second_on).1
  rw [edge, edge, link_eq_iff (bounds first_on).1 (bounds first_on).2 (bounds second_on).1
    (bounds second_on).2] at same
  clear bounds
  cases first <;> cases second <;>
    simp only [OnRing, start, stop, Prod.mk.injEq, chord.injEq, arc.injEq, spoke.injEq,
      diagonal.injEq, reduceCtorEq] at * <;>
    omega

end Side

/-! ## The triangles -/

/-- The triangle of the fan between two neighbours on the oldest ring. -/
def fanTriangle (rowLength bin : Nat) : Triangle :=
  ⟨vertex rowLength 0 0, vertex rowLength 0 bin, vertex rowLength 0 (bin + 1)⟩

/-- The triangles between two neighbours on a ring and those on the ring around it. -/
def bandTriangles (rowLength row bin : Nat) : List Triangle :=
  [⟨vertex rowLength row bin, vertex rowLength (row + 1) bin,
      vertex rowLength (row + 1) (next rowLength bin)⟩,
    ⟨vertex rowLength row bin, vertex rowLength row (next rowLength bin),
      vertex rowLength (row + 1) (next rowLength bin)⟩]

/-- The triangles of the fan. -/
def fanTriangles (rowLength : Nat) : List Triangle :=
  (List.range' 1 (rowLength - 2)).map (fanTriangle rowLength)

/-- The triangles between a ring and the ring around it. -/
def bandOf (rowLength row : Nat) : List Triangle :=
  (List.range rowLength).flatMap (bandTriangles rowLength row)

/-- The disk of the fan and the first bands around it. -/
def diskOf (rowLength bands : Nat) : List Triangle :=
  fanTriangles rowLength ++ (List.range bands).flatMap (bandOf rowLength)

/-- The indices of the circle are the corners of the disk. -/
theorem disk_eq (wide : 3 ≤ rowLength) :
    disk rows rowLength = (diskOf rowLength (rows - 1)).flatMap Triangle.corners := by
  rw [disk, if_neg (by omega), diskOf, fanTriangles, List.flatMap_append, List.flatMap_map,
    List.flatMap_assoc]
  simp only [bandOf, List.flatMap_assoc]
  rfl

/-- No corner of a triangle coincides with another. -/
theorem proper_diskOf (wide : 3 ≤ rowLength) (bands : Nat) :
    ∀ triangle ∈ diskOf rowLength bands, triangle.corners.Nodup := by
  intro triangle member
  rcases List.mem_append.mp member with fan | around
  · obtain ⟨bin, bin_member, rfl⟩ := List.mem_map.mp fan
    rw [List.mem_range'_1] at bin_member
    simp only [Triangle.corners, fanTriangle, vertex, List.nodup_cons, List.mem_cons,
      List.not_mem_nil, or_false, not_false_eq_true, List.nodup_nil, and_true]
    omega
  · obtain ⟨row, _, around⟩ := List.mem_flatMap.mp around
    obtain ⟨bin, bin_member, member⟩ := List.mem_flatMap.mp around
    have bin_lt := List.mem_range.mp bin_member
    have next_lt := next_lt bin_lt
    have next_is := next_cases bin_lt
    simp only [bandTriangles, List.mem_cons, List.not_mem_nil, or_false] at member
    rcases member with rfl | rfl <;>
      simp only [Triangle.corners, List.nodup_cons, List.mem_cons, List.not_mem_nil, or_false,
        not_false_eq_true, List.nodup_nil, and_true, vertex_eq_iff, bin_lt, next_lt] <;>
      omega

/-- Every vertex is a corner of some triangle. -/
theorem vertex_mem_diskOf (wide : 3 ≤ rowLength) {bands : Nat} (row_le : row ≤ bands)
    (bin_lt : bin < rowLength) :
    ∃ triangle ∈ diskOf rowLength bands, vertex rowLength row bin ∈ triangle.corners := by
  have in_band {inner other : Nat} (inner_lt : inner < bands) (other_lt : other < rowLength)
      {triangle : Triangle} (member : triangle ∈ bandTriangles rowLength inner other) :
      triangle ∈ diskOf rowLength bands :=
    List.mem_append_right _ (List.mem_flatMap.mpr ⟨inner, List.mem_range.mpr inner_lt,
      List.mem_flatMap.mpr ⟨other, List.mem_range.mpr other_lt, member⟩⟩)
  have in_fan (other : Nat) (other_pos : 1 ≤ other) (other_lt : other + 1 < rowLength) :
      fanTriangle rowLength other ∈ diskOf rowLength bands :=
    List.mem_append_left _ (List.mem_map.mpr ⟨other, List.mem_range'_1.mpr (by omega), rfl⟩)
  cases row with
  | succ inner =>
    refine ⟨_, in_band row_le bin_lt List.mem_cons_self, ?_⟩
    simp only [Triangle.corners, List.mem_cons, true_or, or_true]
  | zero =>
    rcases Nat.lt_trichotomy (bin + 1) 2 with first | second | later
    · obtain rfl : bin = 0 := by omega
      exact ⟨_, in_fan 1 (by omega) (by omega), List.mem_cons_self⟩
    · refine ⟨_, in_fan bin (by omega) (by omega), ?_⟩
      simp only [Triangle.corners, fanTriangle, List.mem_cons, true_or, or_true]
    · obtain ⟨before, rfl⟩ : ∃ before, bin = before + 1 := ⟨bin - 1, by omega⟩
      refine ⟨_, in_fan before (by omega) (by omega), ?_⟩
      simp only [Triangle.corners, fanTriangle, List.mem_cons, true_or, or_true]

/-! ## The edges -/

/-- The sides of the ring. -/
def ring (rowLength row : Nat) : List Side := (List.range rowLength).map (.arc row)

/-- The sides inside the disk of the fan and the first bands around it. -/
def innerSides (rowLength : Nat) : Nat → List Side
  | 0 => (List.range' 2 (rowLength - 3)).map .chord
  | row + 1 => innerSides rowLength row ++ (ring rowLength row ++
      ((List.range rowLength).map (.spoke row) ++ (List.range rowLength).map (.diagonal row)))

/-- A side is inside the disk if it begins at a ring that another ring surrounds. -/
def Side.Inside (bands : Nat) : Side → Prop
  | .chord _ => True
  | .arc row _ | .spoke row _ | .diagonal row _ => row < bands

theorem mem_ring {side : Side} :
    side ∈ ring rowLength row ↔ ∃ bin, bin < rowLength ∧ side = .arc row bin := by
  simp only [ring, List.mem_map, List.mem_range, eq_comm]

theorem mem_innerSides (wide : 3 ≤ rowLength) {bands : Nat} {side : Side}
    (member : side ∈ innerSides rowLength bands) : side.OnRing rowLength ∧ side.Inside bands := by
  induction bands with
  | zero =>
    obtain ⟨bin, bin_member, rfl⟩ := List.mem_map.mp member
    rw [List.mem_range'_1] at bin_member
    exact ⟨⟨bin_member.1, by omega⟩, trivial⟩
  | succ row ih =>
    simp only [innerSides, ring, List.mem_append, List.mem_map, List.mem_range] at member
    rcases member with before | ⟨bin, bin_lt, rfl⟩ | ⟨bin, bin_lt, rfl⟩ | ⟨bin, bin_lt, rfl⟩
    · obtain ⟨on, inside⟩ := ih before
      refine ⟨on, ?_⟩
      cases side <;> simp only [Side.Inside] at inside ⊢ <;> omega
    · exact ⟨bin_lt, Nat.lt_succ_self row⟩
    · exact ⟨bin_lt, Nat.lt_succ_self row⟩
    · exact ⟨bin_lt, Nat.lt_succ_self row⟩

/-- No side is inside the disk twice, and those of its last ring are not inside. -/
theorem nodup_sides (wide : 3 ≤ rowLength) (bands : Nat) :
    (innerSides rowLength bands ++ ring rowLength bands).Nodup := by
  have nodup_map {side : Nat → Side} (injective : Function.Injective side) :
      ((List.range rowLength).map side).Nodup := List.nodup_range.map injective
  have ring_nodup (row : Nat) : (ring rowLength row).Nodup :=
    nodup_map fun _ _ same => (Side.arc.inj same).2
  have outside {bands : Nat} {side : Side} (member : side ∈ innerSides rowLength bands) :
      side.Inside bands := (mem_innerSides wide member).2
  suffices inner_nodup : (innerSides rowLength bands).Nodup by
    refine inner_nodup.append (ring_nodup bands) ?_
    intro side inner last
    obtain ⟨bin, _, rfl⟩ := mem_ring.mp last
    exact Nat.lt_irrefl bands (outside inner)
  induction bands with
  | zero => exact (List.nodup_range' 1 Nat.one_pos).map fun _ _ same => Side.chord.inj same
  | succ row ih =>
    have spokes_nodup : ((List.range rowLength).map (Side.spoke row)).Nodup :=
      nodup_map fun _ _ same => (Side.spoke.inj same).2
    have diagonals_nodup : ((List.range rowLength).map (Side.diagonal row)).Nodup :=
      nodup_map fun _ _ same => (Side.diagonal.inj same).2
    refine ih.append ((ring_nodup row).append (spokes_nodup.append diagonals_nodup ?_) ?_) ?_
    · intro side spoke diagonal
      obtain ⟨bin, _, rfl⟩ := List.mem_map.mp spoke
      simp at diagonal
    · intro side arc other
      obtain ⟨bin, _, rfl⟩ := mem_ring.mp arc
      simp at other
    · intro side inner other
      have inside := outside inner
      simp only [ring, List.mem_append, List.mem_map] at other
      rcases other with ⟨bin, _, rfl⟩ | ⟨bin, _, rfl⟩ | ⟨bin, _, rfl⟩ <;>
        exact Nat.lt_irrefl row inside

/-- The edges that sides are. -/
def edgesOf (rowLength : Nat) (sides : List Side) : List (Sym2 Nat) :=
  sides.map (Side.edge rowLength)

/-- The edge between the first point of the oldest ring and another one. -/
def ray (rowLength bin : Nat) : Sym2 Nat := link rowLength (0, 0) (0, bin)

/-- The edge between points of the oldest ring with consecutive numbers. -/
def along (rowLength bin : Nat) : Sym2 Nat := link rowLength (0, bin) (0, bin + 1)

/-- Every triangle of the fan lies between two rays. -/
theorem edges_fanTriangles (rowLength : Nat) :
    (fanTriangles rowLength).flatMap Triangle.edges =
      (List.range' 1 (rowLength - 2)).flatMap fun bin =>
        [ray rowLength bin, along rowLength bin, ray rowLength (bin + 1)] := by
  rw [fanTriangles, List.flatMap_map]
  apply List.flatMap_congr
  intro bin _
  exact congrArg ([ray rowLength bin, along rowLength bin, ·]) Sym2.eq_swap

/-- The first and the last ray of the fan are arcs of the oldest ring. -/
theorem edgesOf_oldest_ring (chords : Nat) :
    edgesOf (chords + 3) (ring (chords + 3) 0) =
      ray (chords + 3) 1 :: ((List.range' 1 (chords + 1)).map (along (chords + 3)) ++
        [ray (chords + 3) (chords + 2)]) := by
  have points : List.range (chords + 3) = 0 :: (List.range' 1 (chords + 1) ++ [chords + 2]) := by
    rw [List.range_eq_range', List.range'_1_concat, Nat.zero_add, List.range'_succ,
      List.cons_append]
  have first : (Side.arc 0 0).edge (chords + 3) = ray (chords + 3) 1 := by
    rw [Side.edge, Side.start, Side.stop, next, Nat.mod_eq_of_lt (by omega), ray]
  have inside : (List.range' 1 (chords + 1)).map (fun bin => (Side.arc 0 bin).edge (chords + 3)) =
      (List.range' 1 (chords + 1)).map (along (chords + 3)) := by
    apply List.map_congr_left
    intro bin member
    have bin_lt := List.mem_range'_1.mp member
    rw [Side.edge, Side.start, Side.stop, next, Nat.mod_eq_of_lt (by omega), along]
  have last : (Side.arc 0 (chords + 2)).edge (chords + 3) = ray (chords + 3) (chords + 2) := by
    rw [Side.edge, Side.start, Side.stop, next, Nat.mod_self]
    exact Sym2.eq_swap
  simp only [edgesOf, ring, List.map_map, Function.comp_def, points, List.map_cons,
    List.map_append, List.map_nil, first, inside, last]

/-- The fan has each chord twice and the arcs of the oldest ring once. -/
theorem count_fanTriangles (wide : 3 ≤ rowLength) (edge : Sym2 Nat) :
    ((fanTriangles rowLength).flatMap Triangle.edges).count edge =
      2 * (edgesOf rowLength (innerSides rowLength 0)).count edge +
        (edgesOf rowLength (ring rowLength 0)).count edge := by
  obtain ⟨chords, rfl⟩ : ∃ chords, rowLength = chords + 3 := ⟨rowLength - 3, by omega⟩
  have inner : edgesOf (chords + 3) (innerSides (chords + 3) 0) =
      (List.range' 2 chords).map (ray (chords + 3)) := List.map_map
  have before : (List.range' 1 (chords + 1)).map (ray (chords + 3)) =
      ray (chords + 3) 1 :: (List.range' 2 chords).map (ray (chords + 3)) := rfl
  have after : (List.range' 1 (chords + 1)).map (fun bin => ray (chords + 3) (bin + 1)) =
      (List.range' 2 chords).map (ray (chords + 3)) ++ [ray (chords + 3) (chords + 2)] := by
    have shifted : (List.range' 1 (chords + 1)).map (1 + ·) =
        List.range' 2 chords ++ [chords + 2] := by
      rw [List.map_add_range', List.range'_1_concat, Nat.add_comm chords]
    have rays := congrArg (List.map (ray (chords + 3))) shifted
    simp only [List.map_map, List.map_append, List.map_singleton, Nat.add_comm 1] at rays
    exact rays
  have triangles : chords + 3 - 2 = chords + 1 := rfl
  rw [edges_fanTriangles, edgesOf_oldest_ring, inner, triangles, count_flatMap_cons,
    count_flatMap_cons, ← List.map_eq_flatMap, before, after]
  simp only [List.count_cons, List.count_append]
  omega

/-- A band has each of its spokes and diagonals twice and the arcs of both of its rings once. -/
theorem count_bandOf (rowLength row : Nat) (edge : Sym2 Nat) :
    ((bandOf rowLength row).flatMap Triangle.edges).count edge =
      2 * (edgesOf rowLength ((List.range rowLength).map (.spoke row) ++
          (List.range rowLength).map (.diagonal row))).count edge +
        (edgesOf rowLength (ring rowLength row)).count edge +
        (edgesOf rowLength (ring rowLength (row + 1))).count edge := by
  let spoke (bin : Nat) := (Side.spoke row bin).edge rowLength
  let diagonal (bin : Nat) := (Side.diagonal row bin).edge rowLength
  let arc (row bin : Nat) := (Side.arc row bin).edge rowLength
  have band_edges : (bandOf rowLength row).flatMap Triangle.edges =
      (List.range rowLength).flatMap fun bin => [spoke bin, arc (row + 1) bin, diagonal bin,
        arc row bin, spoke (next rowLength bin), diagonal bin] := by
    rw [bandOf, List.flatMap_assoc]
    apply List.flatMap_congr
    intro bin _
    exact congrArg (fun back => [spoke bin, arc (row + 1) bin, back, arc row bin,
      spoke (next rowLength bin), back]) Sym2.eq_swap
  have turned : ((List.range rowLength).map fun bin => spoke (next rowLength bin)).count edge =
      ((List.range rowLength).map spoke).count edge := by
    have perm := ((map_next_perm rowLength).map spoke).count_eq edge
    rwa [List.map_map] at perm
  rw [band_edges, count_flatMap_cons, count_flatMap_cons, count_flatMap_cons, count_flatMap_cons,
    count_flatMap_cons, ← List.map_eq_flatMap, turned]
  simp only [edgesOf, ring, List.map_append, List.map_map, List.count_append, Function.comp_def,
    spoke, diagonal, arc]
  omega

/-- The triangles of the disk are joined inside, and the disk ends at its last ring. -/
theorem joined_diskOf (wide : 3 ≤ rowLength) (bands : Nat) :
    Joined (edgesOf rowLength (innerSides rowLength bands))
      (edgesOf rowLength (ring rowLength bands)) (diskOf rowLength bands) where
  proper := proper_diskOf wide bands
  count_edges edge := by
    induction bands with
    | zero =>
      rw [diskOf, List.range_zero, List.flatMap_nil, List.append_nil]
      exact count_fanTriangles wide edge
    | succ row ih =>
      have around := count_bandOf rowLength row edge
      rw [diskOf, List.flatMap_append, List.count_append] at ih
      rw [diskOf, List.range_succ, List.flatMap_append, List.flatMap_append, List.flatMap_append,
        List.count_append, List.count_append, List.flatMap_singleton, innerSides]
      simp only [edgesOf, List.map_append, List.count_append] at ih around ⊢
      omega
  distinct := by
    rw [edgesOf, edgesOf, ← List.map_append]
    apply (nodup_sides wide bands).map_on
    have on {side : Side} (member : side ∈ innerSides rowLength bands ++ ring rowLength bands) :
        side.OnRing rowLength := by
      rcases List.mem_append.mp member with inner | last
      · exact (mem_innerSides wide inner).1
      · obtain ⟨bin, bin_lt, rfl⟩ := mem_ring.mp last
        exact bin_lt
    intro side member other other_member same
    exact Side.edge_inj wide (on member) (on other_member) same

/-! ## The cells -/

/-- The corners of the cell between two neighbours on a ring and those on the ring around it. -/
def quad (rowLength row bin : Nat) : List Nat :=
  [vertex rowLength row bin, vertex rowLength row (next rowLength bin),
    vertex rowLength (row + 1) bin, vertex rowLength (row + 1) (next rowLength bin)]

theorem vertex_mem_quad {otherRow other : Nat} (bin_lt : bin < rowLength)
    (other_lt : other < rowLength) : vertex rowLength otherRow other ∈ quad rowLength row bin ↔
      (otherRow = row ∨ otherRow = row + 1) ∧ (other = bin ∨ other = next rowLength bin) := by
  simp only [quad, List.mem_cons, List.not_mem_nil, or_false, vertex_eq_iff other_lt bin_lt,
    vertex_eq_iff other_lt (next_lt bin_lt)]
  omega

/-- Just the two triangles that are drawn for a cell lie in it. -/
theorem countP_quad (wide : 3 ≤ rowLength) {bands : Nat} (row_lt : row < bands)
    (bin_lt : bin < rowLength) :
    ((diskOf rowLength bands).countP fun triangle =>
      triangle.corners ⊆ quad rowLength row bin) = 2 := by
  have next_is := next_cases bin_lt
  have fan_none : ((fanTriangles rowLength).countP fun triangle =>
      triangle.corners ⊆ quad rowLength row bin) = 0 := by
    rw [List.countP_eq_zero]
    intro triangle member
    obtain ⟨other, other_member, rfl⟩ := List.mem_map.mp member
    rw [List.mem_range'_1] at other_member
    simp only [decide_eq_true_eq, fanTriangle, Triangle.corners, List.cons_subset,
      List.nil_subset, and_true]
    rw [vertex_mem_quad bin_lt (by omega), vertex_mem_quad bin_lt (by omega),
      vertex_mem_quad bin_lt (by omega)]
    omega
  have in_cell {inner other : Nat} (other_lt : other < rowLength) {triangle : Triangle}
      (member : triangle ∈ bandTriangles rowLength inner other) :
      triangle.corners ⊆ quad rowLength row bin ↔ inner = row ∧ other = bin := by
    have other_next := next_cases other_lt
    simp only [bandTriangles, List.mem_cons, List.not_mem_nil, or_false] at member
    rcases member with rfl | rfl <;>
      simp only [Triangle.corners, List.cons_subset, List.nil_subset, and_true,
        vertex_mem_quad bin_lt other_lt, vertex_mem_quad bin_lt (next_lt other_lt)] <;>
      omega
  have cell_two : ((bandTriangles rowLength row bin).countP fun triangle =>
      triangle.corners ⊆ quad rowLength row bin) = 2 := by
    rw [List.countP_eq_length.mpr]
    · rfl
    · intro triangle member
      exact decide_eq_true ((in_cell bin_lt member).mpr ⟨rfl, rfl⟩)
  have cell_none {inner other : Nat} (other_lt : other < rowLength)
      (different : ¬(inner = row ∧ other = bin)) :
      ((bandTriangles rowLength inner other).countP fun triangle =>
        triangle.corners ⊆ quad rowLength row bin) = 0 := by
    rw [List.countP_eq_zero]
    intro triangle member inside
    exact different ((in_cell other_lt member).mp (of_decide_eq_true inside))
  rw [diskOf, List.countP_append, fan_none, Nat.zero_add,
    countP_flatMap_single List.nodup_range (List.mem_range.mpr row_lt), bandOf,
    countP_flatMap_single List.nodup_range (List.mem_range.mpr bin_lt), cell_two]
  · intro other other_member different
    exact cell_none (List.mem_range.mp other_member) fun same => different same.2
  · intro inner _ different
    rw [bandOf, List.countP_flatMap, List.sum_eq_zero_iff_forall_eq_nat]
    intro count member
    obtain ⟨other, other_member, rfl⟩ := List.mem_map.mp member
    exact cell_none (List.mem_range.mp other_member) fun same => different same.1

variable {layout : Layout}

/-- The edges of the newest ring. -/
def rim (rows rowLength : Nat) : List (Sym2 Nat) :=
  (List.range rowLength).map fun bin =>
    s(vertex rowLength (rows - 1) bin, vertex rowLength (rows - 1) ((bin + 1) % rowLength))

/-- A circle of at least three bins is a closed disk. No triangle is degenerate and every vertex
belongs to one. The edges of the newest ring are different from each other and each of them belongs
to a single triangle; every other edge joins two triangles. Two triangles lie in each cell between a
ring and the ring around it, also in those between the last bin and the first. -/
theorem circle_is_closed_disk (rows_pos : 0 < layout.rows) (wide : 3 ≤ layout.rowLength)
    (fits : layout.rows * layout.rowLength < Word.indexLimit) :
    ∃ list, generate .circle layout = .ok list ∧
      (triangles list).flatMap Triangle.corners = list ∧
      (∀ triangle ∈ triangles list, triangle.corners.Nodup) ∧
      (∀ index < layout.rows * layout.rowLength,
        ∃ triangle ∈ triangles list, index ∈ triangle.corners) ∧
      (rim layout.rows layout.rowLength).Nodup ∧
      (∀ edge ∈ rim layout.rows layout.rowLength,
        ((triangles list).countP fun triangle => edge ∈ triangle.edges) = 1) ∧
      (∀ triangle ∈ triangles list, ∀ edge ∈ triangle.edges,
        edge ∉ rim layout.rows layout.rowLength →
          ((triangles list).countP fun other => edge ∈ other.edges) = 2) ∧
      ∀ row bin, row + 1 < layout.rows → bin < layout.rowLength →
        ((triangles list).countP fun triangle =>
          triangle.corners ⊆ quad layout.rowLength row bin) = 2 := by
  obtain ⟨rows, rowLength⟩ := layout
  dsimp only at *
  have joined := joined_diskOf wide (rows - 1)
  have rim_eq : rim rows rowLength = edgesOf rowLength (ring rowLength (rows - 1)) := by
    rw [edgesOf, ring, List.map_map]
    rfl
  have generated : generate .circle ⟨rows, rowLength⟩ = .ok (disk rows rowLength) :=
    generate_eq .circle rows_pos (by dsimp only; omega) fits
  rw [disk_eq wide] at generated
  refine ⟨_, generated, ?_⟩
  rw [triangles_flatMap, rim_eq]
  refine ⟨rfl, joined.proper, ?_, (List.nodup_append'.mp joined.distinct).2.1,
    fun _ => joined.countP_of_border, fun _ present _ => joined.countP_of_inner present, ?_⟩
  · intro index index_lt
    have rowLength_pos : 0 < rowLength := by omega
    have row_lt : index / rowLength < rows := (Nat.div_lt_iff_lt_mul rowLength_pos).mpr index_lt
    have numbered : vertex rowLength (index / rowLength) (index % rowLength) = index :=
      Nat.div_add_mod' index rowLength
    rw [← numbered]
    exact vertex_mem_diskOf wide (by omega) (Nat.mod_lt _ rowLength_pos)
  · intro row bin row_lt bin_lt
    exact countP_quad wide (by omega) bin_lt

/-- Around three bins, the edge from the last to the first is shared on the inner ring and ends the
disk on the outer one, and the cell between them is as full as any other. -/
theorem circle_of_three_bins :
    0 < 2 ∧ 3 ≤ 3 ∧ 2 * 3 < Word.indexLimit ∧
      ∃ list, generate .circle ⟨2, 3⟩ = .ok list ∧ (triangles list).length = 7 ∧
        ((triangles list).countP fun triangle => s(2, 0) ∈ triangle.edges) = 2 ∧
        ((triangles list).countP fun triangle => s(5, 3) ∈ triangle.edges) = 1 ∧
        ((triangles list).countP fun triangle => triangle.corners ⊆ [2, 0, 5, 3]) = 2 := by
  have limit : 2 * 3 < Word.indexLimit := by decide
  obtain ⟨list, generated, _, _, _, _, border, inner, cells⟩ :=
    @circle_is_closed_disk ⟨2, 3⟩ (by decide) (by decide) limit
  have made : list = indices .circle ⟨2, 3⟩ :=
    Except.ok.inj (generated.symm.trans (generate_eq .circle (by decide) (by decide) limit))
  refine ⟨by decide, by decide, limit, list, generated, ?_, ?_, ?_, ?_⟩
  · rw [made]
    rfl
  · have present : ⟨2, 0, 3⟩ ∈ triangles list := by
      rw [made]
      decide
    exact inner _ present _ (by decide) (by decide)
  · exact border _ (by decide)
  · exact cells 0 2 (by decide) (by decide)

end Waterfall.Mesh
