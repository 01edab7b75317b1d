import Waterfall.Analysis.Fourier
import Waterfall.Word

/-! # Spectral transforms

A transform turns a window of real samples into complex bins. The standard one is the forward
Fourier transform from the constant bin to the highest, scaled by `2 / length` so that a full-scale
sine lands near one.
-/

namespace Waterfall

/-- A fixed map from windows of `windowLength` samples to `binCount` bins. -/
structure Transform where
  windowLength : Nat
  binCount : Nat
  /-- The bins of a window. -/
  bins : List Float32 → List Bin

namespace Transform

/-- The factor that brings a full-scale sine near one. -/
def normalization (windowLength : Nat) : Float32 :=
  2 / (max windowLength 1).toUInt64.toFloat32

/-- The lower half of the Fourier transform of a window, normalised. -/
def fourierBins (windowLength : Nat) (samples : List Float32) : List Bin :=
  let values := (samples.map fun sample => Bin.mk sample 0).toArray
  ((Fourier.transform values).toList.take (windowLength / 2 + 1)).map
    (·.scaleBy (normalization windowLength))

/-- The normalised Fourier transform for one window length. -/
def fourier (windowLength : Nat) : Transform where
  windowLength := windowLength
  binCount := windowLength / 2 + 1
  bins := fourierBins windowLength

/-- The normalised Fourier transform, provided that a window of bins can be stored. -/
def allocateFourier (windowLength : Nat) : Except Breach Transform := do
  Word.reserve windowLength Bin.bytes
  return fourier windowLength

/-- A transform without arithmetic, for rehearsals: bin `i` shows half of sample `i`, the samples
taken round and round, and the number `-i`. -/
def probe (windowLength binCount : Nat) : Transform where
  windowLength := windowLength
  binCount := binCount
  bins samples := (List.range binCount).map fun index =>
    ⟨samples.getD (index % samples.length) 0 * 0.5, -index.toUInt64.toFloat32⟩

/-- The contents of a bin buffer after a window was transformed into it; an empty window has no
value for its one bin, which keeps what it held. -/
def process (transform : Transform) (input : List Float32) (buffer : List Bin) :
    Except Breach (List Bin) :=
  if input.length ≠ transform.windowLength then .error .transformInput
  else if buffer.length ≠ transform.binCount then .error .transformOutput
  else
    let bins := transform.bins input
    .ok (bins ++ buffer.drop bins.length)

end Transform

end Waterfall
