import Waterfall.Analysis.Fourier.Plan
import Waterfall.Analysis.Fourier.Root

/-! # Carrying out a plan

Every plan of a length computes the same sums, `X k = ∑ x j * e ^ (-2πi * j * k / n)`. In which
order and with which products they are formed is part of the plan, because it shows wherever a value
is infinite, is no number, or grows too large on the way.
-/

namespace Waterfall.Fourier

/-- Every `stride`-th of the values, `count` of them from the position `start` on. -/
def every {size : Nat} (values : Vector Bin size) (start stride count : Nat) : Vector Bin count :=
  Vector.ofFn fun (index : Fin count) => values.getD (start + stride * index) .zero

/-- A value of a part stands `stride` times as far from the first one among all values. -/
theorem getElem_every {size : Nat} (values : Vector Bin size) (start stride count index : Nat)
    (bound : index < count) :
    (every values start stride count)[index] = values.getD (start + stride * index) .zero := by
  simp [every]

/-- The value of a table in a column and a row. -/
def entry {rows columns : Nat} (table : Vector (Vector Bin rows) columns) (column row : Nat) :
    Bin :=
  (table[column]?.bind fun values => values[row]?).getD .zero

/-- The sum of terms, the first one taken as it is. -/
def sum {α : Type} (add : α → α → α) (zero : α) : List α → α
  | [] => zero
  | first :: rest => rest.foldl add first

/-- The terms of a direct transform in the order in which they are added: from that of the first
value on or, among up to five values, from the last one on. -/
def inOrder {α : Type} (size : Nat) (terms : List α) : List α :=
  if size ≤ 5 then terms.reverse else terms

/-- The transform by sums over all values. The values at equal distances from both ends are added
and subtracted first; then the cosines apply to the sums and the sines to the differences. -/
def directly {size : Nat} (values : Vector Bin size) : Vector Bin size :=
  let value (index : Nat) := values.getD index .zero
  let pairs := (List.range' 1 ((size - 1) / 2)).map fun index =>
    (index, (value index).add (value (size - index)), (value index).sub (value (size - index)))
  let middle := if size % 2 = 0 then [value (size / 2)] else []
  Vector.ofFn fun (index : Fin size) =>
    if index.val = 0 then
      sum Bin.add .zero (inOrder size (value 0 :: (pairs.map (·.2.1) ++ middle)))
    else
      let turned := pairs.map fun (position, pair) =>
        (foldedRoot size (position * index), pair)
      let last := middle.map fun bin => if index.val % 2 = 0 then bin else bin.neg
      let total (terms : List Float32) := sum (· + ·) 0 (inOrder size terms)
      let cosines (component : Bin → Float32) := total <| component (value 0) ::
        (turned.map fun (root, sums, _) => root.re * component sums) ++ last.map component
      let sines (component : Bin → Float32) := total <|
        turned.map fun (root, _, differences) => root.im * component differences
      ⟨cosines Bin.re - sines Bin.im, cosines Bin.im + sines Bin.re⟩

/-- A value of a part between the two steps of an interleaved transform. -/
def Turning.apply (turning : Turning) (size part index : Nat) (bin : Bin) : Bin :=
  match turning with
  | spared => turn size (part * index) bin
  | laterParts => if part = 0 then bin else bin.mul (root size (part * index))
  | laterValues => if index = 0 then bin else bin.mul (root size (part * index))
  | all => bin.mul (root size (part * index))

/-- The conjugate products of two spectra, so that a second transform undoes the first. -/
def conjugateProduct {length : Nat} (left right : Vector Bin length) : Vector Bin length :=
  Vector.zipWith (fun first second => (first.mul second).conj) left right

/-- The transform of a prime size by a convolution. The values in the order of the powers of a
primitive root are convolved with the roots of unity in the order of the inverse powers. -/
def byPowers {length : Nat} (convolution : Vector Bin length → Vector Bin length)
    (values : Vector Bin (length + 1)) : Vector Bin (length + 1) :=
  let prime := length + 1
  let base := primitiveRoot prime
  let forward := powers prime base length
  let backward := powers prime (powerModulo prime base (prime - 2)) length
  let first := values.getD 0 .zero
  let share := 1 / length.toUInt64.toFloat32
  let roots := Vector.ofFn fun (index : Fin length) =>
    (root prime (if index.val = 0 then 1 else backward.getD (index.val - 1) 0)).scaleBy share
  let spectrum := convolution <| Vector.ofFn fun (index : Fin length) =>
    values.getD (forward.getD index 0) .zero
  let product := conjugateProduct spectrum (convolution roots)
  let result := convolution (product.setIfInBounds 0 ((product.getD 0 .zero).add first.conj))
  (List.range length).foldl
    (fun bins index =>
      bins.setIfInBounds (backward.getD index 0) (result.getD index .zero).conj)
    (Vector.replicate (length + 1) (first.add (spectrum.getD 0 .zero)))

/-- The transform of any size by a convolution with a chirp, whose phase grows with the square of
the position. -/
def byChirp {size length : Nat} (convolution : Vector Bin length → Vector Bin length)
    (values : Vector Bin size) : Vector Bin size :=
  let chirp (index : Nat) := root (2 * size) (index * index % (2 * size))
  let share := 1 / length.toUInt64.toFloat32
  let phases := Vector.ofFn fun (index : Fin length) =>
    let distance := min index.val (length - index.val)
    if distance < size then (chirp distance).conj.scaleBy share else .zero
  let turned := Vector.ofFn fun (index : Fin length) =>
    if index.val < size then (values.getD index .zero).mul (chirp index) else .zero
  let result := convolution (conjugateProduct (convolution turned) (convolution phases))
  Vector.ofFn fun (index : Fin size) => (result.getD index .zero).conj.mul (chirp index)

namespace Plan

/-- The transform of values as the plan says. -/
def run : {size : Nat} → Plan size → Vector Bin size → Vector Bin size
  | _, direct _, values => directly values
  | _, @interleaved parts length turning across within, values =>
    let rows := Vector.ofFn fun (part : Fin parts) =>
      (within.run (every values part parts length)).mapIdx (turning.apply (parts * length) part)
    let columns := Vector.ofFn fun (column : Fin length) => across.run (rows.map (·[column]))
    Vector.ofFn fun (index : Fin (parts * length)) =>
      entry columns (index % length) (index / length)
  | _, @coprime rows columns across within, values =>
    let lines := Vector.ofFn fun (row : Fin rows) =>
      within.run <| Vector.ofFn fun (column : Fin columns) =>
        values.getD ((row * columns + column * rows) % (rows * columns)) .zero
    let results := Vector.ofFn fun (column : Fin columns) => across.run (lines.map (·[column]))
    Vector.ofFn fun (index : Fin (rows * columns)) =>
      entry results (index % columns) (index % rows)
  | _, cyclic convolution, values => byPowers convolution.run values
  | _, chirp _ convolution, values => byChirp convolution.run values

end Plan

end Waterfall.Fourier
