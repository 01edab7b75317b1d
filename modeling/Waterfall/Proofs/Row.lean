import Waterfall.Proofs.Config
import Waterfall.Proofs.Pipeline
import Waterfall.Proofs.Word

/-! # The row of a window

A pipeline uses its buffers again for every window, but a window of the right length overwrites all
of what they held. Its row is therefore made from the window alone: tapered, transformed and scaled.
The Fourier transform may be any function that gives one value for every sample; nothing here
depends on which one it is.
-/

namespace Waterfall

namespace Transform

/-- A spectrum as a transform assumes it: `length` values give `length` values. -/
def KeepsSize (spectrum : Array Bin → Array Bin) (length : Nat) : Prop :=
  ∀ values, values.size = length → (spectrum values).size = length

theorem keepsSize_transform (length : Nat) : KeepsSize Fourier.transform length := by
  intro values size
  rw [Fourier.size_transform, size]

/-- The lower half of what `spectrum` makes of a window, normalised. -/
def ofSpectrum (spectrum : Array Bin → Array Bin) (windowLength : Nat) : Transform where
  windowLength := windowLength
  binCount := windowLength / 2 + 1
  bins samples :=
    ((spectrum (samples.map fun sample => Bin.mk sample 0).toArray).toList.take
      (windowLength / 2 + 1)).map (·.scaleBy (normalization windowLength))

/-- The transform of a spectrum, provided that a window of bins can be stored. -/
def allocate (spectrum : Array Bin → Array Bin) (windowLength : Nat) : Except Breach Transform := do
  Word.reserve windowLength Bin.bytes
  return ofSpectrum spectrum windowLength

/-- A transform that gives every bin leaves nothing of what a buffer held. -/
theorem process_of_full {transform : Transform} {input : List Float32} {buffer : List Bin}
    (fits : input.length = transform.windowLength) (sized : buffer.length = transform.binCount)
    (full : (transform.bins input).length = transform.binCount) :
    transform.process input buffer = .ok (transform.bins input) := by
  rw [process_of_length fits sized, List.drop_eq_nil_of_le (Nat.le_of_eq (sized.trans full.symm)),
    List.append_nil]

/-- A spectrum with a value for every sample gives every bin. -/
theorem length_bins_ofSpectrum {spectrum : Array Bin → Array Bin} {windowLength : Nat}
    (sized : KeepsSize spectrum windowLength) (two_le : 2 ≤ windowLength) {samples : List Float32}
    (fits : samples.length = windowLength) :
    ((ofSpectrum spectrum windowLength).bins samples).length = windowLength / 2 + 1 := by
  have size := sized (samples.map fun sample => Bin.mk sample 0).toArray (by simpa using fits)
  simp only [ofSpectrum, List.length_map, List.length_take, Array.length_toList, size]
  omega

end Transform

namespace Pipeline

/-- The pipeline of a configuration, with any transform. -/
def ofSpectrum (spectrum : Array Bin → Array Bin) (config : AnalysisConfig) :
    Except Breach Pipeline := do
  let table ← config.taper.allocate config.windowLength
  create table (← Transform.allocate spectrum config.windowLength)

/-- The standard transform is one of them. -/
theorem ofSpectrum_transform (config : AnalysisConfig) :
    ofSpectrum Fourier.transform config = ofConfig config := rfl

/-- The pipeline of a configuration before the first window. -/
def fresh (spectrum : Array Bin → Array Bin) (config : AnalysisConfig) : Pipeline where
  table := config.taper.table config.windowLength
  transform := .ofSpectrum spectrum config.windowLength
  bins := List.replicate config.bins Bin.zero

/-- The parts of a pipeline are for the same window length, and the transform is the largest. -/
theorem ofSpectrum_eq (spectrum : Array Bin → Array Bin) {config : AnalysisConfig}
    (valid : config.Valid) : ofSpectrum spectrum config =
      if config.windowLength * Bin.bytes < Word.storageLimit then .ok (fresh spectrum config)
      else .error .overflow := by
  have same : (config.taper.table config.windowLength).length =
      (Transform.ofSpectrum spectrum config.windowLength).windowLength := by
    simp [TaperTable.length, Taper.table, Transform.ofSpectrum]
  have created : create (config.taper.table config.windowLength)
      (Transform.ofSpectrum spectrum config.windowLength) =
        if config.bins * Bin.bytes < Word.storageLimit then .ok (fresh spectrum config)
        else .error .overflow := by
    rw [create, if_neg (not_not_intro same)]
    exact Word.reserve_then _ _ _
  have bins_le : config.bins ≤ config.windowLength := by
    have two_le := valid.two_le_windowLength
    rw [AnalysisConfig.bins]
    omega
  have samples_le : config.windowLength * Word.sampleBytes ≤ config.windowLength * Bin.bytes :=
    Nat.mul_le_mul_left _ (by decide)
  rw [ofSpectrum, Taper.allocate, Word.reserve_then, Transform.allocate, Word.reserve_then]
  by_cases values : config.windowLength * Bin.bytes < Word.storageLimit
  · rw [if_pos (Nat.lt_of_le_of_lt samples_le values), ok_bind, if_pos values, ok_bind, created,
      if_pos (Nat.lt_of_le_of_lt (Nat.mul_le_mul_right _ bins_le) values), if_pos values]
  · rw [if_neg values, if_neg values]
    split <;> rfl

end Pipeline

namespace AnalysisConfig

/-- The bins of a window: tapered and transformed. -/
def binsOf (config : AnalysisConfig) (spectrum : Array Bin → Array Bin) (window : List Float32) :
    List Bin :=
  (Transform.ofSpectrum spectrum config.windowLength).bins
    (List.zipWith (· * ·) window (config.taper.table config.windowLength).coefficients)

/-- The row that a window becomes. -/
def rowOf (config : AnalysisConfig) (spectrum : Array Bin → Array Bin) (scale : Scale)
    (window : List Float32) : List Point := (config.binsOf spectrum window).map scale.apply

variable {config : AnalysisConfig} {spectrum : Array Bin → Array Bin} {window : List Float32}

theorem length_binsOf (valid : config.Valid)
    (sized : Transform.KeepsSize spectrum config.windowLength)
    (fits : window.length = config.windowLength) :
    (config.binsOf spectrum window).length = config.bins := by
  apply Transform.length_bins_ofSpectrum sized valid.two_le_windowLength
  simp [Taper.table, fits]

theorem length_rowOf (valid : config.Valid)
    (sized : Transform.KeepsSize spectrum config.windowLength) (scale : Scale)
    (fits : window.length = config.windowLength) :
    (config.rowOf spectrum scale window).length = config.layout.rowLength := by
  rw [rowOf, List.length_map, length_binsOf valid sized fits]
  rfl

end AnalysisConfig

/-- A pipeline of a configuration, whatever the last window left in its bins. -/
structure Pipeline.Follows (config : AnalysisConfig) (spectrum : Array Bin → Array Bin)
    (pipeline : Pipeline) : Prop where
  table_eq : pipeline.table = config.taper.table config.windowLength
  transform_eq : pipeline.transform = .ofSpectrum spectrum config.windowLength
  length_bins : pipeline.bins.length = config.bins

/-- A window of the right length is published as a row in which nothing of the bins before it is
left. -/
theorem Pipeline.Follows.process {config : AnalysisConfig} (valid : config.Valid)
    {spectrum : Array Bin → Array Bin} (sized : Transform.KeepsSize spectrum config.windowLength)
    {pipeline : Pipeline} (follows : pipeline.Follows config spectrum) {window : List Float32}
    (fits : window.length = config.windowLength) {board : Board} {history : History Point}
    (pushed : board.history.push (config.rowOf spectrum board.scale window) = .ok history) :
    pipeline.process window board =
      .ok ({ pipeline with bins := config.binsOf spectrum window },
        .appended { board with history }) := by
  have length := AnalysisConfig.length_binsOf valid sized fits
  obtain ⟨table, transform, bins⟩ := pipeline
  obtain ⟨rfl, rfl, length_bins⟩ := follows
  dsimp only at length_bins
  have length_table : (config.taper.table config.windowLength).length = config.windowLength := by
    simp [TaperTable.length, Taper.table]
  have tapered : (config.taper.table config.windowLength).apply window config.windowLength =
      .ok (List.zipWith (· * ·) window (config.taper.table config.windowLength).coefficients) :=
    TaperTable.apply_of_length (fits.trans length_table.symm) length_table.symm
  have transformed : (Transform.ofSpectrum spectrum config.windowLength).process
      (List.zipWith (· * ·) window (config.taper.table config.windowLength).coefficients) bins =
        .ok (config.binsOf spectrum window) :=
    Transform.process_of_full (by simp [Transform.ofSpectrum, Taper.table, fits]) length_bins length
  have published : board.publish (config.binsOf spectrum window)
      (config.binsOf spectrum window).length = .ok (.appended { board with history }) := by
    rw [Board.publish, Scale.mapRow, if_pos rfl, ok_bind, Board.append, ← AnalysisConfig.rowOf,
      pushed]
    rfl
  rw [Pipeline.process]
  dsimp only [Transform.ofSpectrum] at transformed ⊢
  rw [tapered, ok_bind, transformed, ok_bind, published]
  rfl

end Waterfall
