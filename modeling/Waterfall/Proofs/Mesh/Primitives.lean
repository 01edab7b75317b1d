import Mathlib.Data.Sym.Sym2
import Waterfall.Proofs.Mesh.Indices

/-! # Index lists as segments and triangles

The device takes the indices of a style two or three at a time. Triangles make a surface if every
edge that one of them has is either an edge of exactly one other, where the two are joined, or an
edge of no other, where the surface ends. Such edges are inner edges and border edges.
-/

namespace Waterfall.Mesh

/-- The segments of an index list. -/
def pairs : List Nat → List (Nat × Nat)
  | first :: second :: rest => (first, second) :: pairs rest
  | _ => []

/-- A list of segments is read back from its indices. -/
theorem pairs_flatMap (list : List (Nat × Nat)) :
    pairs (list.flatMap fun pair => [pair.1, pair.2]) = list := by
  induction list with
  | nil => rfl
  | cons pair rest ih =>
    simp only [List.flatMap_cons, List.cons_append, List.nil_append, pairs, ih]

/-- A triangle by the numbers of its corners. -/
structure Triangle where
  first : Nat
  second : Nat
  third : Nat
deriving DecidableEq, Repr

namespace Triangle

/-- The corners of a triangle in the order in which they are drawn. -/
def corners (triangle : Triangle) : List Nat := [triangle.first, triangle.second, triangle.third]

/-- The edges of a triangle, without direction. -/
def edges (triangle : Triangle) : List (Sym2 Nat) :=
  [s(triangle.first, triangle.second), s(triangle.second, triangle.third),
    s(triangle.third, triangle.first)]

/-- A triangle with three corners has three edges. -/
theorem nodup_edges {triangle : Triangle} (proper : triangle.corners.Nodup) :
    triangle.edges.Nodup := by
  simp only [corners, List.nodup_cons, List.mem_cons, List.not_mem_nil, or_false, not_or] at proper
  obtain ⟨⟨first_ne_second, first_ne_third⟩, second_ne_third, _⟩ := proper
  simp only [edges, List.nodup_cons, List.mem_cons, List.not_mem_nil, or_false, not_or,
    Sym2.eq_iff, List.nodup_nil, not_false_eq_true, and_true]
  omega

end Triangle

/-- The triangles of an index list. -/
def triangles : List Nat → List Triangle
  | first :: second :: third :: rest => ⟨first, second, third⟩ :: triangles rest
  | _ => []

/-- A list of triangles is read back from its indices. -/
theorem triangles_flatMap (list : List Triangle) :
    triangles (list.flatMap Triangle.corners) = list := by
  induction list with
  | nil => rfl
  | cons triangle rest ih =>
    simp only [List.flatMap_cons, Triangle.corners, List.cons_append, List.nil_append, triangles,
      ih]

/-- The triangles are joined at the inner edges, and the surface they make ends at the border. -/
structure Joined (inner border : List (Sym2 Nat)) (list : List Triangle) : Prop where
  proper : ∀ triangle ∈ list, triangle.corners.Nodup
  count_edges : ∀ edge, (list.flatMap Triangle.edges).count edge =
    2 * inner.count edge + border.count edge
  distinct : (inner ++ border).Nodup

section

variable {inner border : List (Sym2 Nat)} {list : List Triangle} {edge : Sym2 Nat}

/-- What starts the list of each item can be counted apart. -/
theorem count_flatMap_cons {α β : Type} [DecidableEq β] (head : α → β) (tail : α → List β)
    (list : List α) (value : β) :
    (list.flatMap fun item => head item :: tail item).count value =
      (list.map head).count value + (list.flatMap tail).count value := by
  induction list with
  | nil => rfl
  | cons item rest ih =>
    simp only [List.flatMap_cons, List.map_cons, List.count_append, List.count_cons, ih]
    omega

/-- Where the list of a single item satisfies a property, the others add nothing to the count. -/
theorem countP_flatMap_single {α β : Type} {holds : β → Bool} {made : α → List β} {item : α}
    {list : List α} (nodup : list.Nodup) (present : item ∈ list)
    (others : ∀ other ∈ list, other ≠ item → (made other).countP holds = 0) :
    (list.flatMap made).countP holds = (made item).countP holds := by
  induction list with
  | nil => cases present
  | cons first rest ih =>
    obtain ⟨first_absent, rest_nodup⟩ := List.nodup_cons.mp nodup
    obtain ⟨first_none, rest_none⟩ := List.forall_mem_cons.mp others
    rw [List.flatMap_cons, List.countP_append]
    rcases List.mem_cons.mp present with rfl | later
    · have none : (rest.flatMap made).countP holds = 0 := by
        rw [List.countP_flatMap, List.sum_eq_zero_iff_forall_eq_nat]
        intro count member
        obtain ⟨other, other_member, rfl⟩ := List.mem_map.mp member
        exact rest_none other other_member (ne_of_mem_of_not_mem other_member first_absent)
      rw [none, Nat.add_zero]
    · have different : first ≠ item := (ne_of_mem_of_not_mem later first_absent).symm
      rw [first_none different, Nat.zero_add, ih rest_nodup later rest_none]

/-- A triangle counts once for each of its edges. -/
theorem count_flatMap_edges (proper : ∀ triangle ∈ list, triangle.corners.Nodup)
    (edge : Sym2 Nat) : (list.flatMap Triangle.edges).count edge =
      list.countP fun triangle => edge ∈ triangle.edges := by
  induction list with
  | nil => rfl
  | cons triangle rest ih =>
    obtain ⟨first, others⟩ := List.forall_mem_cons.mp proper
    have once : triangle.edges.count edge = if edge ∈ triangle.edges then 1 else 0 :=
      (Triangle.nodup_edges first).count
    rw [List.flatMap_cons, List.count_append, ih others, List.countP_cons, once, Nat.add_comm]
    simp only [decide_eq_true_eq]

theorem Joined.countP_eq (joined : Joined inner border list) (edge : Sym2 Nat) :
    (list.countP fun triangle => edge ∈ triangle.edges) =
      2 * inner.count edge + border.count edge := by
  rw [← count_flatMap_edges joined.proper, joined.count_edges]

/-- An edge of the border belongs to one triangle. -/
theorem Joined.countP_of_border (joined : Joined inner border list) (member : edge ∈ border) :
    (list.countP fun triangle => edge ∈ triangle.edges) = 1 := by
  obtain ⟨_, border_nodup, disjoint⟩ := List.nodup_append'.mp joined.distinct
  have not_inner : inner.count edge = 0 :=
    List.count_eq_zero_of_not_mem fun inside => disjoint inside member
  rw [joined.countP_eq, not_inner, List.count_eq_one_of_mem border_nodup member]

/-- Every other edge of a triangle belongs to one more triangle. -/
theorem Joined.countP_of_inner (joined : Joined inner border list) {triangle : Triangle}
    (present : triangle ∈ list) (member : edge ∈ triangle.edges) (inside : edge ∉ border) :
    (list.countP fun triangle => edge ∈ triangle.edges) = 2 := by
  have inner_nodup := (List.nodup_append'.mp joined.distinct).1
  have at_most := List.nodup_iff_count_le_one.mp inner_nodup edge
  have not_border : border.count edge = 0 := List.count_eq_zero_of_not_mem inside
  have some : 0 < list.countP fun triangle => edge ∈ triangle.edges :=
    List.countP_pos_iff.mpr ⟨triangle, present, decide_eq_true member⟩
  rw [joined.countP_eq, not_border] at some ⊢
  omega

end

end Waterfall.Mesh
