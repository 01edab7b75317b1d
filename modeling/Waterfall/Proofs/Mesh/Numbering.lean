import Mathlib.Algebra.Group.Nat.Defs
import Waterfall.Camera
import Waterfall.Proofs.Config
import Waterfall.Proofs.Mesh.Indices

/-! # Vertex numbers of accepted settings

Nothing bounds the history from above when settings are accepted. Its points are counted with 64
bits and numbered with 32, so the count is a breach from `2 ^ 64` points on, and from `2 ^ 32` points
on the shader is told a wrong number of vertices and the indices of the points are truncated. Below
that, all that is calculated from the shape of the history is exact.
-/

namespace Waterfall

namespace Word

variable {left right product value : Nat}

theorem mul_eq_ok_iff :
    mul left right = .ok product ↔ product = left * right ∧ left * right < countLimit := by
  rw [mul, count]
  split
  · next fits =>
    rw [Except.ok.injEq, eq_comm]
    exact (and_iff_left fits).symm
  · next exceeds => exact iff_of_false nofun fun counted => exceeds counted.2

theorem truncate_eq_iff : truncate value = value ↔ value < indexLimit :=
  Nat.mod_eq_iff_lt (by decide)

end Word

variable {layout : Layout}

/-- The shader is told the true shape of the history exactly if its points can be numbered. -/
theorem Camera.uniforms_exact_iff (camera : Camera) (time : Float32) (extent : Extent)
    (rowCount : Nat) (style : VisualStyle) (rows_pos : 0 < layout.rows) :
    (∃ uniforms, camera.uniforms time extent layout rowCount style = .ok uniforms ∧
        uniforms.vertexCount = layout.rows * layout.rowLength ∧
        uniforms.rowLength = layout.rowLength) ↔
      layout.rows * layout.rowLength < Word.indexLimit := by
  have limits : Word.indexLimit < Word.countLimit := by decide
  have rowLength_le : layout.rowLength ≤ layout.rows * layout.rowLength :=
    Nat.le_mul_of_pos_left _ rows_pos
  unfold uniforms
  constructor
  · rintro ⟨uniforms, told, vertexCount_eq, _⟩
    obtain ⟨points, counted, built⟩ := bind_eq_ok.mp told
    obtain ⟨rfl, _⟩ := Word.mul_eq_ok_iff.mp counted
    cases built
    exact Word.truncate_eq_iff.mp vertexCount_eq
  · intro fits
    rw [Layout.points, Word.mul_of_lt (by omega), ok_bind]
    exact ⟨_, rfl, Word.truncate_of_lt fits, Word.truncate_of_lt (by omega)⟩

namespace Mesh

/-- The indices of all styles are exact exactly if the points of the history can be numbered. -/
theorem generate_exact_iff (rows_pos : 0 < layout.rows) (rowLength_pos : 0 < layout.rowLength) :
    (∀ style, generate style layout = .ok (indices style layout)) ↔
      layout.rows * layout.rowLength < Word.indexLimit := by
  constructor
  · intro exact
    obtain ⟨_, _, stored⟩ := bind_eq_ok.mp (exact .points)
    obtain ⟨_, _, listed⟩ := bind_eq_ok.mp stored
    obtain ⟨points, counted, same⟩ := bind_eq_ok.mp listed
    obtain ⟨rfl, _⟩ := Word.mul_eq_ok_iff.mp counted
    -- The points are numbered up to the truncated count, so that is the true one.
    have lengths := congrArg List.length (Except.ok.inj same)
    rw [Mesh.points, indices, List.length_range, List.length_range] at lengths
    exact Word.truncate_eq_iff.mp lengths
  · intro fits style
    exact generate_eq style rows_pos rowLength_pos fits

end Mesh

namespace AnalysisConfig

/-- The number of points that the history of these settings has. -/
def pointCount (config : AnalysisConfig) : Nat := config.historyRows * (config.windowLength / 2 + 1)

/-- For accepted settings, the points of the history are counted without a breach exactly if there
are fewer than `2 ^ 64`. Exactly if there are fewer than `2 ^ 32`, the shader is told their number
and that of each row, and the indices of all styles are generated without truncation or breach; then
every index is the number of a point. -/
theorem numbering_exact_iff_of_validate {config : AnalysisConfig}
    (accepted : config.validate = .ok ()) :
    (config.layout.points = .ok config.pointCount ↔ config.pointCount < Word.countLimit) ∧
      (∀ (camera : Camera) (time : Float32) (extent : Extent) (rowCount : Nat)
        (style : VisualStyle),
        (∃ uniforms, camera.uniforms time extent config.layout rowCount style = .ok uniforms ∧
            uniforms.vertexCount = config.pointCount ∧
            uniforms.rowLength = config.windowLength / 2 + 1) ↔
          config.pointCount < Word.indexLimit) ∧
      ((∀ style, Mesh.generate style config.layout = .ok (Mesh.indices style config.layout)) ↔
        config.pointCount < Word.indexLimit) ∧
      (config.pointCount < Word.indexLimit → ∀ style,
        ∀ index ∈ Mesh.indices style config.layout, index < config.pointCount) := by
  have rows_pos : 0 < config.layout.rows := (config.validate_eq_ok_iff.mp accepted).historyRows_pos
  have rowLength_pos : 0 < config.layout.rowLength := Nat.succ_pos _
  refine ⟨?_, ?_, ?_, ?_⟩
  · rw [Layout.points, Word.mul_eq_ok_iff]
    exact and_iff_right rfl
  · intro camera time extent rowCount style
    exact camera.uniforms_exact_iff time extent rowCount style rows_pos
  · exact Mesh.generate_exact_iff rows_pos rowLength_pos
  · intro _ style
    exact Mesh.index_lt style rows_pos

/-- The longest history of windows of two samples has two points less than can be numbered. -/
theorem numbering_of_longest_history :
    validate { windowLength := 2, historyRows := 2 ^ 31 - 1 } = .ok () ∧
      pointCount { windowLength := 2, historyRows := 2 ^ 31 - 1 } = 2 ^ 32 - 2 ∧
      Mesh.generate .spiral ⟨2 ^ 31 - 1, 2⟩ = .ok (Mesh.indices .spiral ⟨2 ^ 31 - 1, 2⟩) ∧
      ∀ index ∈ Mesh.indices .spiral ⟨2 ^ 31 - 1, 2⟩, index < 2 ^ 32 - 2 := by
  have accepted : validate { windowLength := 2, historyRows := 2 ^ 31 - 1 } = .ok () := rfl
  have counted : pointCount { windowLength := 2, historyRows := 2 ^ 31 - 1 } = 2 ^ 32 - 2 := rfl
  obtain ⟨_, _, exact, within⟩ := numbering_exact_iff_of_validate accepted
  rw [counted] at exact within
  have few : 2 ^ 32 - 2 < Word.indexLimit := by decide
  exact ⟨accepted, counted, exact.mpr few .spiral, within few .spiral⟩

/-- Accepted settings can describe more points than can be counted, and more than can be numbered:
then the shader is told a wrong number of vertices, and most points are never drawn. -/
theorem inexact_numbering_of_huge_histories :
    validate { windowLength := 2, historyRows := 2 ^ 63 } = .ok () ∧
      (AnalysisConfig.layout { windowLength := 2, historyRows := 2 ^ 63 }).points =
        .error .overflow ∧
      validate { windowLength := 2 ^ 17, historyRows := 2 ^ 16 } = .ok () ∧
      pointCount { windowLength := 2 ^ 17, historyRows := 2 ^ 16 } = 2 ^ 32 + 2 ^ 16 ∧
      (∀ (camera : Camera) (time : Float32) (extent : Extent) (rowCount : Nat)
        (style : VisualStyle), ∃ uniforms,
          camera.uniforms time extent
              (AnalysisConfig.layout { windowLength := 2 ^ 17, historyRows := 2 ^ 16 })
              rowCount style = .ok uniforms ∧
            uniforms.vertexCount = 2 ^ 16) ∧
      Mesh.generate .points
          (AnalysisConfig.layout { windowLength := 2 ^ 17, historyRows := 2 ^ 16 }) =
        .ok (List.range (2 ^ 16)) := by
  refine ⟨rfl, rfl, rfl, rfl, ?_, rfl⟩
  intro camera time extent rowCount style
  exact ⟨_, rfl, rfl⟩

end AnalysisConfig

end Waterfall
