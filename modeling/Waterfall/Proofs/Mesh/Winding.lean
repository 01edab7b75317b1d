import Mathlib.Data.List.Nodup
import Waterfall.Proofs.Mesh.Primitives

/-! # Winding

A triangle gives each of its edges a direction, the one in which it is drawn. Where no direction of
an edge is drawn twice, at most two triangles share an edge, they run along it in opposite
directions, and an edge ends the surface exactly if its other direction is not drawn. Surfaces that
are made of four-cornered tiles, each cut along one diagonal, are wound in this way as soon as no
direction belongs to two tiles.
-/

namespace Waterfall.Mesh

/-- The edge that a directed edge is. -/
def undirected (side : Nat × Nat) : Sym2 Nat := s(side.1, side.2)

/-- Both directions of an edge count for the edge. -/
theorem count_map_undirected {start stop : Nat} (different : start ≠ stop)
    (list : List (Nat × Nat)) : (list.map undirected).count s(start, stop) =
      list.count (start, stop) + list.count (stop, start) := by
  induction list with
  | nil => rfl
  | cons side rest ih =>
    obtain ⟨first, second⟩ := side
    rw [List.map_cons, List.count_cons, List.count_cons, List.count_cons, ih]
    simp only [undirected, beq_iff_eq, Sym2.eq_iff, Prod.mk.injEq]
    split_ifs <;> omega

/-- What is chosen of the lists of all items is chosen of the list of a single one, if the others
have nothing to choose. -/
theorem filter_flatMap_single {α β : Type} {chosen : β → Bool} {made : α → List β} {item : α}
    {list : List α} (nodup : list.Nodup) (present : item ∈ list)
    (others : ∀ other ∈ list, other ≠ item → (made other).filter chosen = []) :
    (list.flatMap made).filter chosen = (made item).filter chosen := by
  induction list with
  | nil => cases present
  | cons first rest ih =>
    obtain ⟨first_absent, rest_nodup⟩ := List.nodup_cons.mp nodup
    obtain ⟨first_none, rest_none⟩ := List.forall_mem_cons.mp others
    rw [List.flatMap_cons, List.filter_append]
    rcases List.mem_cons.mp present with rfl | later
    · have none : (rest.flatMap made).filter chosen = [] := by
        rw [List.filter_flatMap, List.flatMap_eq_nil_iff]
        intro other member
        exact rest_none other member (ne_of_mem_of_not_mem member first_absent)
      rw [none, List.append_nil]
    · have different : first ≠ item := (ne_of_mem_of_not_mem later first_absent).symm
      rw [first_none different, List.nil_append, ih rest_nodup later rest_none]

namespace Triangle

/-- The edges of a triangle in the direction in which they are drawn. -/
def sides (triangle : Triangle) : List (Nat × Nat) :=
  [(triangle.first, triangle.second), (triangle.second, triangle.third),
    (triangle.third, triangle.first)]

theorem edges_eq (triangle : Triangle) : triangle.edges = triangle.sides.map undirected := rfl

theorem mem_edges_iff {triangle : Triangle} {start stop : Nat} :
    s(start, stop) ∈ triangle.edges ↔
      (start, stop) ∈ triangle.sides ∨ (stop, start) ∈ triangle.sides := by
  simp only [edges, sides, List.mem_cons, List.not_mem_nil, or_false, Sym2.eq_iff, Prod.mk.injEq]
  tauto

/-- The ends of an edge of a triangle are different corners. -/
theorem ne_of_mem_sides {triangle : Triangle} (proper : triangle.corners.Nodup) {start stop : Nat}
    (side : (start, stop) ∈ triangle.sides) : start ≠ stop := by
  simp only [corners, List.nodup_cons, List.mem_cons, List.not_mem_nil, or_false, not_or] at proper
  simp only [sides, List.mem_cons, List.not_mem_nil, or_false, Prod.mk.injEq] at side
  omega

/-- Two triangles run along a shared edge in opposite directions. -/
def Opposed (one other : Triangle) : Prop :=
  ∀ start stop, s(start, stop) ∈ one.edges → s(start, stop) ∈ other.edges →
    (start, stop) ∈ one.sides ∧ (stop, start) ∈ other.sides ∨
      (stop, start) ∈ one.sides ∧ (start, stop) ∈ other.sides

theorem opposed_of_disjoint {one other : Triangle}
    (disjoint : one.sides.Disjoint other.sides) : one.Opposed other := by
  intro start stop in_one in_other
  rcases mem_edges_iff.mp in_one with one_forth | one_back <;>
    rcases mem_edges_iff.mp in_other with other_forth | other_back
  · exact absurd other_forth (disjoint one_forth)
  · exact .inl ⟨one_forth, other_back⟩
  · exact .inr ⟨one_back, other_forth⟩
  · exact absurd other_back (disjoint one_back)

end Triangle

/-- The directed edges of a list of triangles. -/
def sidesOf (list : List Triangle) : List (Nat × Nat) := list.flatMap Triangle.sides

/-- The number of triangles that an edge belongs to. -/
def incidence (list : List Triangle) (edge : Sym2 Nat) : Nat :=
  list.countP fun triangle => edge ∈ triangle.edges

/-- No triangle is degenerate, and each direction of an edge is drawn at most once. -/
structure Wound (list : List Triangle) : Prop where
  proper : ∀ triangle ∈ list, triangle.corners.Nodup
  distinct : (sidesOf list).Nodup

/-- Every edge of a triangle is drawn in one direction. -/
theorem exists_mem_sidesOf {list : List Triangle} {triangle : Triangle} {edge : Sym2 Nat}
    (present : triangle ∈ list) (member : edge ∈ triangle.edges) :
    ∃ start stop, edge = s(start, stop) ∧ (start, stop) ∈ sidesOf list := by
  rw [Triangle.edges_eq, List.mem_map] at member
  obtain ⟨⟨start, stop⟩, side, rfl⟩ := member
  exact ⟨start, stop, rfl, List.mem_flatMap.mpr ⟨triangle, present, side⟩⟩

namespace Wound

variable {list : List Triangle} {edge : Sym2 Nat} {start stop : Nat}

/-- Triangles that share an edge run along it in opposite directions. -/
theorem opposed (wound : Wound list) : list.Pairwise Triangle.Opposed :=
  (List.nodup_flatMap.mp wound.distinct).2.imp Triangle.opposed_of_disjoint

theorem ne_of_mem_sidesOf (wound : Wound list) (drawn : (start, stop) ∈ sidesOf list) :
    start ≠ stop := by
  obtain ⟨triangle, present, side⟩ := List.mem_flatMap.mp drawn
  exact Triangle.ne_of_mem_sides (wound.proper triangle present) side

/-- An edge belongs to one triangle for each of its directions that is drawn. -/
theorem incidence_eq (wound : Wound list) (different : start ≠ stop) :
    incidence list s(start, stop) =
      (if (start, stop) ∈ sidesOf list then 1 else 0) +
        if (stop, start) ∈ sidesOf list then 1 else 0 := by
  have edges : list.flatMap Triangle.edges = (sidesOf list).map undirected := by
    rw [sidesOf, List.map_flatMap]
    rfl
  rw [incidence, ← count_flatMap_edges wound.proper, edges, count_map_undirected different,
    wound.distinct.count, wound.distinct.count]

/-- An edge belongs to a single triangle exactly if only one of its directions is drawn. -/
theorem incidence_eq_one_iff (wound : Wound list) :
    incidence list edge = 1 ↔
      ∃ start stop, edge = s(start, stop) ∧ (start, stop) ∈ sidesOf list ∧
        (stop, start) ∉ sidesOf list := by
  constructor
  · intro one
    have some : 0 < list.countP fun triangle => edge ∈ triangle.edges := by
      rw [incidence] at one
      omega
    obtain ⟨triangle, present, member⟩ := List.countP_pos_iff.mp some
    obtain ⟨start, stop, rfl, drawn⟩ := exists_mem_sidesOf present (of_decide_eq_true member)
    refine ⟨start, stop, rfl, drawn, fun back => ?_⟩
    rw [wound.incidence_eq (wound.ne_of_mem_sidesOf drawn), if_pos drawn, if_pos back] at one
    cases one
  · rintro ⟨start, stop, rfl, drawn, alone⟩
    rw [wound.incidence_eq (wound.ne_of_mem_sidesOf drawn), if_pos drawn, if_neg alone]

/-- An edge of a triangle belongs to one triangle or to two. -/
theorem incidence_cases (wound : Wound list) {triangle : Triangle} (present : triangle ∈ list)
    (member : edge ∈ triangle.edges) : incidence list edge = 1 ∨ incidence list edge = 2 := by
  obtain ⟨start, stop, rfl, drawn⟩ := exists_mem_sidesOf present member
  rw [wound.incidence_eq (wound.ne_of_mem_sidesOf drawn), if_pos drawn]
  split_ifs
  · exact .inr rfl
  · exact .inl rfl

end Wound

/-! ## Tiles -/

/-- A surface with four corners, named once around. -/
structure Tile where
  first : Nat
  second : Nat
  third : Nat
  fourth : Nat
deriving DecidableEq, Repr

namespace Tile

variable {tile : Tile}

/-- The corners of a tile, once around. -/
def corners (tile : Tile) : List Nat := [tile.first, tile.second, tile.third, tile.fourth]

/-- The two triangles that a tile is cut into along the diagonal from its first corner. -/
def halves (tile : Tile) : List Triangle :=
  [⟨tile.first, tile.second, tile.third⟩, ⟨tile.first, tile.third, tile.fourth⟩]

/-- The directed edges of both halves. -/
def sides (tile : Tile) : List (Nat × Nat) := sidesOf tile.halves

theorem mem_sides {side : Nat × Nat} : side ∈ tile.sides ↔
    side = (tile.first, tile.second) ∨ side = (tile.second, tile.third) ∨
      side = (tile.third, tile.first) ∨ side = (tile.first, tile.third) ∨
      side = (tile.third, tile.fourth) ∨ side = (tile.fourth, tile.first) := by
  simp only [sides, sidesOf, halves, Triangle.sides, List.flatMap_cons, List.flatMap_nil,
    List.append_nil, List.cons_append, List.nil_append, List.mem_cons, List.not_mem_nil, or_false]

theorem corners_halves (tile : Tile) :
    ∀ triangle ∈ tile.halves, triangle.corners ⊆ tile.corners := by
  intro triangle member
  simp only [halves, List.mem_cons, List.not_mem_nil, or_false] at member
  rcases member with rfl | rfl <;>
    simp only [Triangle.corners, corners, List.cons_subset, List.mem_cons, List.nil_subset,
      true_or, or_true, and_true]

theorem proper_halves (proper : tile.corners.Nodup) :
    ∀ triangle ∈ tile.halves, triangle.corners.Nodup := by
  intro triangle member
  simp only [halves, List.mem_cons, List.not_mem_nil, or_false] at member
  simp only [corners, List.nodup_cons, List.mem_cons, List.not_mem_nil, or_false, not_or] at proper
  rcases member with rfl | rfl <;>
    simp only [Triangle.corners, List.nodup_cons, List.mem_cons, List.not_mem_nil, or_false,
      not_or, List.nodup_nil, not_false_eq_true, and_true] <;>
    omega

/-- Only the diagonal belongs to both halves, and each of them draws one of its directions. -/
theorem nodup_sides (proper : tile.corners.Nodup) : tile.sides.Nodup := by
  simp only [corners, List.nodup_cons, List.mem_cons, List.not_mem_nil, or_false, not_or] at proper
  simp only [sides, sidesOf, halves, Triangle.sides, List.flatMap_cons, List.flatMap_nil,
    List.append_nil, List.cons_append, List.nil_append, List.nodup_cons, List.mem_cons,
    List.not_mem_nil, or_false, not_or, Prod.mk.injEq, List.nodup_nil, not_false_eq_true, and_true]
  omega

end Tile

/-- The triangles of tiles, two for each. -/
def halvesOf {ι : Type} (tile : ι → Tile) (places : List ι) : List Triangle :=
  places.flatMap fun place => (tile place).halves

section

variable {ι : Type} {tile : ι → Tile} {places : List ι}

theorem mem_sidesOf_halvesOf {side : Nat × Nat} :
    side ∈ sidesOf (halvesOf tile places) ↔ ∃ place ∈ places, side ∈ (tile place).sides := by
  rw [sidesOf, halvesOf, List.flatMap_assoc, List.mem_flatMap]
  rfl

/-- Tiles are wound alike if no directed edge belongs to two of them. -/
theorem wound_halvesOf (nodup : places.Nodup)
    (proper : ∀ place ∈ places, (tile place).corners.Nodup)
    (apart : ∀ place ∈ places, ∀ other ∈ places, ∀ side ∈ (tile place).sides,
      side ∈ (tile other).sides → place = other) :
    Wound (halvesOf tile places) where
  proper := by
    intro triangle member
    obtain ⟨place, present, half⟩ := List.mem_flatMap.mp member
    exact Tile.proper_halves (proper place present) triangle half
  distinct := by
    rw [sidesOf, halvesOf, List.flatMap_assoc, List.nodup_flatMap]
    refine ⟨fun place present => Tile.nodup_sides (proper place present), ?_⟩
    apply nodup.pairwise_of_forall_ne
    intro place present other other_present different side in_place in_other
    exact different (apart place present other other_present side in_place in_other)

/-- A tile holds just its two halves if no half of another one lies in it. -/
theorem filter_halvesOf {place : ι} (nodup : places.Nodup) (present : place ∈ places)
    (apart : ∀ other ∈ places, ∀ half ∈ (tile other).halves,
      half.corners ⊆ (tile place).corners → other = place) :
    ((halvesOf tile places).filter fun triangle => triangle.corners ⊆ (tile place).corners) =
      (tile place).halves := by
  rw [halvesOf, filter_flatMap_single nodup present]
  · rw [List.filter_eq_self]
    intro half member
    exact decide_eq_true (Tile.corners_halves (tile place) half member)
  · intro other other_present different
    rw [List.filter_eq_nil_iff]
    intro half member inside
    exact different (apart other other_present half member (of_decide_eq_true inside))

end

end Waterfall.Mesh
