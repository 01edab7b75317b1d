import Waterfall.Analysis.Config
import Waterfall.Word

/-! # Tapers

A window is multiplied by the coefficients of its taper before it is transformed. The coefficients
of one window length are computed once.
-/

namespace Waterfall

/-- The coefficients of a taper for one window length. -/
structure TaperTable where
  coefficients : List Float32

namespace Taper

/-- The ratio of a circle to its diameter, in single precision. -/
def pi : Float32 := Float32.ofBits 0x40490fdb

/-- The coefficient of a raised cosine over `size` samples; one if there is at most one sample. -/
def hannCoefficient (index size : Nat) : Float32 :=
  if size ≤ 1 then 1
  else
    let angle := (2 * pi * index.toUInt64.toFloat32) / (size.toUInt64.toFloat32 - 1)
    0.5 * (1 - angle.cos)

/-- The coefficient of a taper at one sample of a window. -/
def coefficient (taper : Taper) (index size : Nat) : Float32 :=
  match taper with
  | .hann => hannCoefficient index size
  | .rectangular => 1

/-- The coefficients of a taper for windows of `size` samples. -/
def table (taper : Taper) (size : Nat) : TaperTable :=
  ⟨(List.range size).map fun index => taper.coefficient index size⟩

/-- The coefficients for windows of `size` samples, provided that they can be stored. -/
def allocate (taper : Taper) (size : Nat) : Except Breach TaperTable := do
  Word.reserve size Word.sampleBytes
  return taper.table size

end Taper

namespace TaperTable

/-- The window length the table is for. -/
def length (table : TaperTable) : Nat := table.coefficients.length

/-- The tapered samples, for a buffer of `outputLength` samples that receives them. -/
def apply (table : TaperTable) (input : List Float32) (outputLength : Nat) :
    Except Breach (List Float32) :=
  if input.length ≠ table.length then .error .taperInput
  else if outputLength ≠ table.length then .error .taperOutput
  else .ok (List.zipWith (· * ·) input table.coefficients)

end TaperTable

end Waterfall
