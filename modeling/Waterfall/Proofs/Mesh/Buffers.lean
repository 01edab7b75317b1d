import Waterfall.Proofs.Mesh.Primitives

/-! # Index lists fit their buffer

The number of indices of a style is calculated on its own, and the index buffer has room for the
largest of these numbers. The calculation agrees with the lists: each has just as many indices as
announced, made up of whole segments or triangles, and none of them points beyond the vertices.
-/

namespace Waterfall

/-- Steps that succeed on every item of a list give the list of their values. -/
theorem mapM_of_ok {ε α β : Type} {step : α → Except ε β} {made : α → β} {list : List α}
    (each : ∀ item ∈ list, step item = .ok (made item)) :
    list.mapM step = .ok (list.map made) := by
  induction list with
  | nil => rfl
  | cons item rest ih =>
    obtain ⟨first, others⟩ := List.forall_mem_cons.mp each
    rw [List.mapM_cons, first, ok_bind, ih others, ok_bind]
    rfl

namespace Mesh

variable {layout : Layout}

/-- No style has more indices than the buffer has room for. -/
theorem maxIndexCount_of_fits (rows_pos : 0 < layout.rows) (rowLength_pos : 0 < layout.rowLength)
    (fits : layout.rows * layout.rowLength < Word.indexLimit) :
    ∃ room, maxIndexCount layout = .ok room ∧
      ∀ style, (indices style layout).length ≤ room := by
  have counted : VisualStyle.all.mapM (fun style => indexCount style layout) =
      .ok (VisualStyle.all.map fun style => (indices style layout).length) :=
    mapM_of_ok fun style _ => indexCount_eq style rows_pos rowLength_pos fits
  refine ⟨_, by rw [maxIndexCount, counted]; rfl, ?_⟩
  intro style
  cases style <;> simp [VisualStyle.all]

/-- The segments of all rows, one after the other. -/
theorem pairs_segments (rows rowLength : Nat) :
    pairs (segments rows rowLength) =
      (List.range rows).flatMap fun row =>
        (List.range (rowLength - 1)).map fun bin =>
          (vertex rowLength row bin, vertex rowLength row (bin + 1)) := by
  rw [← pairs_flatMap (List.flatMap _ _), List.flatMap_assoc]
  simp only [List.flatMap_map]
  rfl

/-- The segments join the neighbours of every row. -/
theorem mem_pairs_segments {rows rowLength : Nat} {pair : Nat × Nat} :
    pair ∈ pairs (segments rows rowLength) ↔ ∃ row bin, row < rows ∧ bin + 1 < rowLength ∧
      pair = (vertex rowLength row bin, vertex rowLength row (bin + 1)) := by
  rw [pairs_segments]
  simp only [List.mem_flatMap, List.mem_map, List.mem_range]
  constructor
  · rintro ⟨row, row_lt, bin, bin_lt, rfl⟩
    exact ⟨row, bin, row_lt, by omega, rfl⟩
  · rintro ⟨row, bin, row_lt, bin_lt, rfl⟩
    exact ⟨row, row_lt, bin, by omega, rfl⟩

/-- No segment is drawn twice. -/
theorem nodup_pairs_segments (rows rowLength : Nat) :
    (pairs (segments rows rowLength)).Nodup := by
  rw [pairs_segments, List.nodup_flatMap]
  constructor
  · intro row _
    apply List.Nodup.map_on _ List.nodup_range
    intro bin bin_member other other_member same
    rw [List.mem_range] at bin_member other_member
    exact ((vertex_eq_iff (by omega) (by omega)).mp (Prod.ext_iff.mp same).1).2
  · apply List.nodup_range.imp
    intro row other different pair first second
    obtain ⟨bin, bin_member, rfl⟩ := List.mem_map.mp first
    obtain ⟨otherBin, other_member, same⟩ := List.mem_map.mp second
    rw [List.mem_range] at bin_member other_member
    have rows := ((vertex_eq_iff (by omega) (by omega)).mp (Prod.ext_iff.mp same).1).1
    exact different rows.symm

/-- The indices of a layout whose vertices can be numbered with 32 bits are generated without a
breach and are those of the plain numbers, so none of them was truncated. There are as many of them
as announced, not more than the buffer has room for, and each is the number of a vertex. Triangles
and segments are whole; the points are all vertices in order, and the segments are those between
neighbours of a row, each of them once. -/
theorem generate_fits_buffers (style : VisualStyle) (rows_pos : 0 < layout.rows)
    (rowLength_pos : 0 < layout.rowLength)
    (fits : layout.rows * layout.rowLength < Word.indexLimit) :
    ∃ list count room, generate style layout = .ok list ∧ list = indices style layout ∧
      indexCount style layout = .ok count ∧ list.length = count ∧
      maxIndexCount layout = .ok room ∧ count ≤ room ∧
      (∀ index ∈ list, index < layout.rows * layout.rowLength) ∧
      match style with
      | .surface | .circle | .spiral => 3 ∣ list.length
      | .lines => 2 ∣ list.length ∧ (pairs list).Nodup ∧
          ∀ pair, pair ∈ pairs list ↔
            ∃ row bin, row < layout.rows ∧ bin + 1 < layout.rowLength ∧
              pair = (vertex layout.rowLength row bin, vertex layout.rowLength row (bin + 1))
      | .points => list = List.range (layout.rows * layout.rowLength) := by
  obtain ⟨room, greatest, within⟩ := maxIndexCount_of_fits rows_pos rowLength_pos fits
  refine ⟨_, _, room, generate_eq style rows_pos rowLength_pos fits, rfl,
    indexCount_eq style rows_pos rowLength_pos fits, rfl, greatest, within style,
    index_lt style rows_pos, ?_⟩
  cases style with
  | surface =>
    dsimp only [indices]
    rw [length_grid, Nat.mul_assoc]
    omega
  | lines =>
    refine ⟨?_, nodup_pairs_segments _ _, fun pair => mem_pairs_segments⟩
    dsimp only [indices]
    rw [length_segments, Nat.mul_assoc]
    omega
  | points => rfl
  | circle =>
    dsimp only [indices]
    rw [length_disk, Nat.mul_assoc 6]
    split <;> omega
  | spiral =>
    dsimp only [indices]
    rw [length_ribbon]
    omega

/-- Two rows of three vertices have two segments each. -/
theorem generate_fits_buffers_of_lines :
    0 < 2 ∧ 0 < 3 ∧ 2 * 3 < Word.indexLimit ∧
      ∃ list count room, generate .lines ⟨2, 3⟩ = .ok list ∧
        indexCount .lines ⟨2, 3⟩ = .ok count ∧ list.length = count ∧ count = 8 ∧
        maxIndexCount ⟨2, 3⟩ = .ok room ∧ count ≤ room ∧ (∀ index ∈ list, index < 2 * 3) ∧
        (2, 3) ∉ pairs list ∧ (3, 4) ∈ pairs list := by
  have limit : 2 * 3 < Word.indexLimit := by decide
  obtain ⟨list, count, room, generated, same, counted, length, greatest, within, index_lt, _, _,
      segments⟩ :=
    @generate_fits_buffers ⟨2, 3⟩ .lines (by decide) (by decide) limit
  refine ⟨by decide, by decide, limit, list, count, room, generated, counted, length, ?_, greatest,
    within, index_lt, ?_, ?_⟩
  · rw [← length, same]
    rfl
  · rw [segments]
    rintro ⟨row, bin, row_lt, bin_lt, same⟩
    obtain ⟨first, second⟩ := Prod.ext_iff.mp same
    simp only [vertex] at first second bin_lt
    omega
  · rw [segments]
    exact ⟨1, 0, by decide, by decide, rfl⟩

end Mesh

end Waterfall
