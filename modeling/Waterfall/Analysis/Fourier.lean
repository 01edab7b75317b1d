import Waterfall.Analysis.Fourier.Run

/-! # The discrete Fourier transform

The forward transform of `n` values is `X k = ∑ x j * e ^ (-2πi * j * k / n)`, not normalised, in
single precision. How it is computed depends on the length alone.
-/

namespace Waterfall.Fourier

/-- The forward transform. -/
def transform (values : Array Bin) : Array Bin :=
  ((Plan.design values.size).run values.toVector).toArray

/-- A transform has as many values as there were. -/
theorem size_transform (values : Array Bin) : (transform values).size = values.size := by
  simp [transform]

end Waterfall.Fourier
