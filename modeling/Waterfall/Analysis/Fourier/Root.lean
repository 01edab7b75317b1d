import Waterfall.Spectrum.Bin

/-! # Roots of unity

The values that a transform multiplies with are the powers of `e ^ (-2πi / size)`, computed in
double precision and then rounded. A product with such a power is a turn; turns by a multiple of an
eighth of the circle need no general product.
-/

namespace Waterfall.Fourier

/-- The ratio of a circle to its diameter. -/
def pi : Float := 3.141592653589793

/-- The `index`-th power of `e ^ (-2πi / size)`. -/
def root (size index : Nat) : Bin :=
  let angle := -2 * pi / size.toFloat * index.toFloat
  ⟨angle.cos.toFloat32, angle.sin.toFloat32⟩

/-- The `index`-th power; the second half of the powers are exact conjugates of the first. -/
def foldedRoot (size index : Nat) : Bin :=
  let index := index % size
  if index ≤ size / 2 then root size index else (root size (size - index)).conj

/-- The cosine of an eighth of a circle. -/
def eighthCosine : Float32 := (0.5 : Float).sqrt.toFloat32

/-- A bin turned by `index` parts of a circle of `size` parts. Eighths of a circle take only sums
and, for the odd ones, a common factor. -/
def turn (size index : Nat) (bin : Bin) : Bin :=
  if 8 * index % size ≠ 0 then bin.mul (root size index)
  else
    match 8 * index / size % 8 with
    | 0 => bin
    | 1 => (bin.quarterTurn.add bin).scaleBy eighthCosine
    | 2 => bin.quarterTurn
    | 3 => (bin.quarterTurn.sub bin).scaleBy eighthCosine
    | 4 => bin.neg
    | 5 => (bin.quarterTurn.add bin).scaleBy (-eighthCosine)
    | 6 => bin.quarterTurn.neg
    | _ => (bin.quarterTurn.sub bin).scaleBy (-eighthCosine)

end Waterfall.Fourier
