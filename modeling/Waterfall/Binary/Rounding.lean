/-! # Rounding to a number of significant bits

Binary floating-point values of a known range are whole multiples of one small unit, so they are
natural numbers here and every rounding step is exact integer arithmetic. A number keeps its first
`precision` bits; what is dropped rounds to the nearer neighbour, and a tie goes to the even one.
-/

namespace Waterfall.Binary

/-- The quotient rounded to the nearest whole number, a tie to the even neighbour. -/
def divNearestEven (value divisor : Nat) : Nat :=
  let quotient := value / divisor
  let doubled := 2 * (value % divisor)
  if doubled < divisor then quotient
  else if divisor < doubled then quotient + 1
  else quotient + quotient % 2

/-- The weight of the last of the first `precision` bits of `value`. -/
def quantum (precision value : Nat) : Nat := Nat.pow 2 (value.log2 + 1 - precision)

/-- `value` rounded to `precision` significant bits. -/
def roundSignificant (precision value : Nat) : Nat :=
  divNearestEven value (quantum precision value) * quantum precision value

/-- The quotient rounded to the nearest whole number, a tie upwards. -/
def divNearestUp (value divisor : Nat) : Nat := (2 * value + divisor) / (2 * divisor)

/-- The quotient rounded to the next whole number. -/
def divCeil (value divisor : Nat) : Nat := (value + divisor - 1) / divisor

/-- The significant bits of double precision. -/
def doublePrecision : Nat := 53

end Waterfall.Binary
