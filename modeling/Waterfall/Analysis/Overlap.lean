import Waterfall.Binary.Single

/-! # Overlap of consecutive windows

Consecutive analysis windows of `length` samples share a ratio of their samples, so a new window is
due after `length * (1 - ratio)` new samples: the hop. Ratios are clamped to `[0, 1 - ε]`. The hop
and the size of the sample ring are computed in double precision, which the definitions spell out
as exact integer arithmetic: the length, the difference or sum and the product are each rounded to
53 significant bits, and only then is a whole number of samples taken.
-/

namespace Waterfall.Overlap

open Binary

/-- The largest ratio, `1 - 0.0001`, in single precision. -/
def largest : Float32 := Float32.ofBits 0x3f7ff972

/-- The largest ratio in units of `2 ^ -149`. -/
def largestUnits : Nat := 16775538 * Nat.pow 2 125

/-- A ratio clamped to the admitted range; NaN becomes zero and negative zero stays. -/
def clamp (ratio : Float32) : Float32 :=
  match read ratio with
  | .nan => Float32.ofBits 0
  | .infinite negative => if negative then Float32.ofBits 0 else largest
  | .finite negative units =>
    if negative ∧ units ≠ 0 then Float32.ofBits 0
    else if largestUnits < units then largest
    else ratio

/-- The exact value of a clamped ratio, in units of `2 ^ -149`. -/
def clampedUnits (ratio : Float32) : Nat :=
  match read ratio with
  | .nan => 0
  | .infinite negative => if negative then 0 else largestUnits
  | .finite negative units => if negative then 0 else min units largestUnits

/-- The double-precision product of `length` and a factor given in units. -/
def scaled (length factor : Nat) : Nat :=
  roundSignificant doublePrecision
    (roundSignificant doublePrecision length * roundSignificant doublePrecision factor)

/-- The new samples due between two windows: at least one, at most the window's length. -/
def hop (length : Nat) (ratio : Float32) : Nat :=
  min (max (divNearestUp (scaled length (oneUnits - clampedUnits ratio)) oneUnits) 1)
    (max length 1)

/-- The samples a ring keeps: `length * (1 + ratio)` rounded up, at least one window and one. -/
def ringCapacity (length : Nat) (ratio : Float32) : Nat :=
  max (max (divCeil (scaled length (oneUnits + clampedUnits ratio)) oneUnits) length) 1

/-- A hop is never empty. -/
theorem one_le_hop (length : Nat) (ratio : Float32) : 1 ≤ hop length ratio := by
  unfold hop
  omega

/-- A hop is never longer than its window. -/
theorem hop_le (length : Nat) (ratio : Float32) : hop length ratio ≤ max length 1 := by
  unfold hop
  omega

/-- A ring holds a whole window. -/
theorem length_le_ringCapacity (length : Nat) (ratio : Float32) :
    length ≤ ringCapacity length ratio := by
  unfold ringCapacity
  omega

/-- A ring is never empty. -/
theorem one_le_ringCapacity (length : Nat) (ratio : Float32) : 1 ≤ ringCapacity length ratio := by
  unfold ringCapacity
  omega

end Waterfall.Overlap
