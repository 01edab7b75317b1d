import Waterfall.Analysis.Pipeline
import Waterfall.Proofs.Outcome

/-! # Pipelines that serve a window length

A pipeline checks the lengths of its taper, its transform and its bins again for every window. One
whose parts agree on a window length processes every window of that length without a breach, and is
then ready for the next one. Every pipeline of a configuration is such a pipeline.
-/

namespace Waterfall

theorem Transform.length_fourierBins_le (windowLength : Nat) (samples : List Float32) :
    (Transform.fourierBins windowLength samples).length ≤ windowLength / 2 + 1 := by
  rw [Transform.fourierBins, List.length_map, List.length_take]
  exact Nat.min_le_left _ _

/-- A table tapers windows of its own length. -/
theorem TaperTable.apply_of_length {table : TaperTable} {input : List Float32} {outputLength : Nat}
    (fits : input.length = table.length) (sized : outputLength = table.length) :
    table.apply input outputLength = .ok (List.zipWith (· * ·) input table.coefficients) := by
  rw [apply, if_neg (not_not_intro fits), if_neg (not_not_intro sized)]

/-- A transform writes its bins over the first ones of a buffer of the right length. -/
theorem Transform.process_of_length {transform : Transform} {input : List Float32}
    {buffer : List Bin} (fits : input.length = transform.windowLength)
    (sized : buffer.length = transform.binCount) :
    transform.process input buffer =
      .ok (transform.bins input ++ buffer.drop (transform.bins input).length) := by
  rw [process, if_neg (not_not_intro fits), if_neg (not_not_intro sized)]

/-- A spectrum with a scratch row of its own length is published or rejected. -/
theorem Board.publish_length (board : Board) (bins : List Bin) :
    ∃ publication, board.publish bins bins.length = .ok publication := by
  rw [publish, Scale.mapRow, if_pos rfl, ok_bind]
  cases board.append (bins.map board.scale.apply) with
  | ok after => exact ⟨_, rfl⟩
  | error cause => exact ⟨_, rfl⟩

namespace Pipeline

/-- The parts of a pipeline agree on a window length and on the number of bins. -/
structure Serves (windowLength : Nat) (pipeline : Pipeline) : Prop where
  length_table : pipeline.table.length = windowLength
  windowLength_eq : pipeline.transform.windowLength = windowLength
  length_bins : pipeline.bins.length = pipeline.transform.binCount
  /-- The transform writes no bin past the end of its buffer. -/
  length_transform_le : ∀ samples : List Float32, samples.length = windowLength →
    (pipeline.transform.bins samples).length ≤ pipeline.transform.binCount

theorem serves_of_create {table : TaperTable} {transform : Transform} {pipeline : Pipeline}
    (bounded : ∀ samples : List Float32, samples.length = transform.windowLength →
      (transform.bins samples).length ≤ transform.binCount)
    (created : create table transform = .ok pipeline) :
    pipeline.Serves transform.windowLength := by
  by_cases same : table.length = transform.windowLength
  · rw [create, if_neg (not_not_intro same)] at created
    obtain ⟨_, _, made⟩ := bind_eq_ok.mp created
    cases made
    exact ⟨same, rfl, List.length_replicate, bounded⟩
  · rw [create, if_pos same] at created
    cases created

/-- The pipeline of a configuration serves its window length. -/
theorem serves_ofConfig {config : AnalysisConfig} {pipeline : Pipeline}
    (made : ofConfig config = .ok pipeline) : pipeline.Serves config.windowLength := by
  obtain ⟨table, _, made⟩ := bind_eq_ok.mp made
  obtain ⟨transform, allocated, created⟩ := bind_eq_ok.mp made
  obtain ⟨_, _, made⟩ := bind_eq_ok.mp allocated
  cases made
  exact serves_of_create (fun samples _ => Transform.length_fourierBins_le _ samples) created

/-- A window of the length that is served is processed without a breach. -/
theorem Serves.process {windowLength : Nat} {pipeline : Pipeline}
    (serves : pipeline.Serves windowLength) {samples : List Float32}
    (fits : samples.length = windowLength) (board : Board) :
    ∃ after publication, pipeline.process samples board = .ok (after, publication) ∧
      after.Serves windowLength := by
  have tapered : pipeline.table.apply samples pipeline.transform.windowLength =
      .ok (List.zipWith (· * ·) samples pipeline.table.coefficients) :=
    TaperTable.apply_of_length (fits.trans serves.length_table.symm)
      (serves.windowLength_eq.trans serves.length_table.symm)
  have length_tapered : (List.zipWith (· * ·) samples pipeline.table.coefficients).length =
      pipeline.transform.windowLength := by
    rw [List.length_zipWith, fits, show pipeline.table.coefficients.length = windowLength from
      serves.length_table, Nat.min_self, serves.windowLength_eq]
  generalize List.zipWith (· * ·) samples pipeline.table.coefficients = window
    at tapered length_tapered
  have length_le := serves.length_transform_le window (length_tapered.trans serves.windowLength_eq)
  have transformed := Transform.process_of_length length_tapered serves.length_bins
  have length_bins : (pipeline.transform.bins window ++
      pipeline.bins.drop (pipeline.transform.bins window).length).length =
        pipeline.transform.binCount := by
    rw [List.length_append, List.length_drop, serves.length_bins]
    omega
  generalize pipeline.transform.bins window ++
    pipeline.bins.drop (pipeline.transform.bins window).length = bins at transformed length_bins
  obtain ⟨publication, published⟩ := board.publish_length bins
  refine ⟨{ pipeline with bins }, publication, ?_, serves.length_table, serves.windowLength_eq,
    length_bins, serves.length_transform_le⟩
  rw [Pipeline.process, tapered, ok_bind, transformed, ok_bind, published, ok_bind]
  rfl

end Pipeline

end Waterfall
