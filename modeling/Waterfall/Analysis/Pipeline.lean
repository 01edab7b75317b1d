import Waterfall.Analysis.Taper
import Waterfall.Analysis.Transform
import Waterfall.Spectrum.Board

/-! # From a window to a row

The pipeline tapers one window, transforms it and publishes the bins on the board. It keeps nothing
from one window to the next but the bins of the last one.
-/

namespace Waterfall

/-- A taper, a transform for the same window length, and the bins of the last window. -/
structure Pipeline where
  table : TaperTable
  transform : Transform
  bins : List Bin

namespace Pipeline

/-- A pipeline of a taper and a transform, which must be for the same window length, provided that
its buffers can be stored. -/
def create (table : TaperTable) (transform : Transform) : Except Breach Pipeline := do
  if table.length ≠ transform.windowLength then
    throw .taperMismatch
  Word.reserve transform.binCount Bin.bytes
  return ⟨table, transform, List.replicate transform.binCount Bin.zero⟩

/-- The pipeline of a configuration, with the Fourier transform. -/
def ofConfig (config : AnalysisConfig) : Except Breach Pipeline := do
  let table ← config.taper.allocate config.windowLength
  create table (← Transform.allocateFourier config.windowLength)

/-- Taper, transform and publish one window. -/
def process (pipeline : Pipeline) (samples : List Float32) (board : Board) :
    Except Breach (Pipeline × Board.Publication) := do
  let tapered ← pipeline.table.apply samples pipeline.transform.windowLength
  let bins ← pipeline.transform.process tapered pipeline.bins
  return ({ pipeline with bins }, ← board.publish bins bins.length)

end Pipeline

end Waterfall
