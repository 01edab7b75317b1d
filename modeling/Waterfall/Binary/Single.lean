import Waterfall.Binary.Rounding

/-! # Single-precision numbers as exact integers

Every finite single-precision number is a whole multiple of the smallest positive one, `2 ^ -149`.
`Reading` is what a bit pattern denotes, with finite magnitudes counted in that unit, and `nearest`
goes the other way: from an exact quotient to the pattern of the nearest number.
-/

namespace Waterfall.Binary

/-- What a single-precision bit pattern denotes; a finite magnitude is in units of `2 ^ -149`. -/
inductive Reading
  | nan
  | infinite (negative : Bool)
  | finite (negative : Bool) (units : Nat)
deriving DecidableEq, Repr

/-- The number one, in units. -/
def oneUnits : Nat := Nat.pow 2 149

/-- The step from one exponent to the next in a bit pattern, and one more than the largest
fraction. -/
def exponentStep : Nat := Nat.pow 2 23

/-- The bit that marks a negative number. -/
def signBit : Nat := Nat.pow 2 31

/-- The bit pattern of positive infinity. -/
def infinityBits : Nat := 255 * exponentStep

/-- The number denoted by a bit pattern. -/
def readBits (bits : Nat) : Reading :=
  let negative := decide (signBit ≤ bits)
  let exponent := bits / exponentStep % 256
  let fraction := bits % exponentStep
  if exponent = 255 then if fraction = 0 then .infinite negative else .nan
  else if exponent = 0 then .finite negative fraction
  else .finite negative ((exponentStep + fraction) * Nat.pow 2 (exponent - 1))

/-- The number denoted by a single-precision value. -/
def read (value : Float32) : Reading := readBits value.toBits.toNat

/-- The bit pattern of a magnitude with at most 24 significant bits; beyond the range, infinity. -/
def encode (units : Nat) : Nat :=
  if units < exponentStep then units
  else
    let shift := units.log2 - 23
    min ((shift + 1) * exponentStep + (units / Nat.pow 2 shift - exponentStep)) infinityBits

/-- The bit pattern of the number nearest to `numerator / denominator`, a tie to the even one. -/
def nearest (numerator denominator : Nat) : Nat :=
  let scaled := numerator * oneUnits
  let step := quantum 24 (scaled / denominator)
  encode (divNearestEven scaled (denominator * step) * step)

/-- The number of that sign and bit pattern. -/
def signed (negative : Bool) (bits : Nat) : Float32 :=
  Float32.ofBits (UInt32.ofNat (if negative then signBit + bits else bits))

/-- The number nearest to `digits * 10 ^ exponent`; far outside the range no power is formed. -/
def ofDecimal (negative : Bool) (digits : Nat) (exponent : Int) : Float32 :=
  let places : Int := (Nat.toDigits 10 digits).length + exponent
  if digits = 0 ∨ places < -60 then signed negative 0
  else if 60 < places then signed negative infinityBits
  else if 0 ≤ exponent then signed negative (nearest (digits * Nat.pow 10 exponent.toNat) 1)
  else signed negative (nearest digits (Nat.pow 10 (-exponent).toNat))

end Waterfall.Binary
