import Waterfall.Analysis.Fourier.Factors

/-! # Plans of a transform

A plan says how the transform of one length is put together from shorter ones. Its type carries the
length, so every plan that can be written down fits. The plan of a length is chosen by
`Plan.design`: short lengths have fixed plans, a long power of two and three times one are halved
twice at a time, a prime is led back to a convolution, and everything else is split into two
factors, if possible into two with fixed plans that lie close together.
-/

namespace Waterfall.Fourier

/-- Which values an interleaved transform multiplies between its two steps. -/
inductive Turning
  /-- Only those that are turned, and eighths of a circle without a general product. -/
  | spared
  /-- All but those of the first part. -/
  | laterParts
  /-- All but the first value of every part. -/
  | laterValues
  /-- All of them, also where the factor is one. -/
  | all
deriving DecidableEq, Repr

/-- How the transform of `size` values is computed. -/
inductive Plan : (size : Nat) → Type
  /-- By sums over all values, taken in pairs at equal distances from both ends. -/
  | direct (size : Nat) : Plan size
  /-- By the transforms of `parts` interleaved parts and transforms across them. -/
  | interleaved {parts length : Nat} (turning : Turning) (across : Plan parts)
    (within : Plan length) : Plan (parts * length)
  /-- By a rectangle with coprime sides, whose rows and columns are transformed without turns. -/
  | coprime {rows columns : Nat} (across : Plan rows) (within : Plan columns) :
    Plan (rows * columns)
  /-- A prime size, by a cyclic convolution over the powers of a primitive root. -/
  | cyclic {length : Nat} (convolution : Plan length) : Plan (length + 1)
  /-- By a convolution with a chirp, in transforms of any size that is large enough. -/
  | chirp {length : Nat} (size : Nat) (convolution : Plan length) : Plan size

namespace Plan

/-- The plan of four values. -/
def four : Plan 4 := @interleaved 2 2 .spared (direct 2) (direct 2)

/-- The plan of six values. -/
def six : Plan 6 := @coprime 2 3 (direct 2) (direct 3)

/-- The plan of eight values. -/
def eight : Plan 8 := @interleaved 2 4 .spared (direct 2) four

/-- The plan of twelve values. -/
def twelve : Plan 12 := @coprime 3 4 (direct 3) four

/-- The plan of 24 values. -/
def twentyFour : Plan 24 := @interleaved 6 4 .laterValues six four

/-- The plan of four parts that are transformed in the same way. -/
def fourfold {quarter : Nat} (plan : Plan quarter) : Plan (4 * quarter) :=
  interleaved .laterParts four plan

/-- The plan of a power of two: up to five halvings in fixed ways, then two at a time. -/
def powerOfTwo : (exponent : Nat) → Plan (Nat.pow 2 exponent)
  | 0 => direct 1
  | 1 => direct 2
  | 2 => four
  | 3 => eight
  | 4 => @interleaved 4 4 .laterValues four four
  | 5 => @interleaved 8 4 .laterValues eight four
  | exponent + 6 =>
    have size_eq : 4 * Nat.pow 2 (exponent + 4) = Nat.pow 2 (exponent + 6) := by
      simp only [Nat.pow_eq, Nat.pow_succ]
      omega
    size_eq ▸ fourfold (powerOfTwo (exponent + 4))

/-- The plan of three times a power of two: up to three halvings in fixed ways, then two at a
time. -/
def threefoldPower : (exponent : Nat) → Plan (3 * Nat.pow 2 exponent)
  | 0 => direct 3
  | 1 => six
  | 2 => twelve
  | 3 => twentyFour
  | exponent + 4 =>
    have size_eq : 4 * (3 * Nat.pow 2 (exponent + 2)) = 3 * Nat.pow 2 (exponent + 4) := by
      simp only [Nat.pow_eq, Nat.pow_succ]
      omega
    size_eq ▸ fourfold (threefoldPower (exponent + 2))

/-- The fixed plan of a short length, if it has one. -/
def short? : (size : Nat) → Option (Plan size)
  | 4 => some four
  | 6 => some six
  | 8 => some eight
  | 9 => some (@interleaved 3 3 .spared (direct 3) (direct 3))
  | 10 => some (@coprime 2 5 (direct 2) (direct 5))
  | 12 => some twelve
  | 15 => some (@coprime 3 5 (direct 3) (direct 5))
  | 16 => some (powerOfTwo 4)
  | 24 => some twentyFour
  | 32 => some (powerOfTwo 5)
  | size =>
    if size ≤ 1 ∨ size ≤ 31 ∧ isPrime size = true then some (direct size) else none

/-- The plan of a length from those of two factors: coprime short factors need no turns. -/
def ofFactors {left right : Nat} (first : Plan left) (second : Plan right) : Plan (left * right) :=
  if left ≤ 32 ∧ right ≤ 32 ∧ left.gcd right = 1 then
    (Nat.mul_comm right left) ▸ coprime second first
  else interleaved .all first second

/-- The largest prime factor that the size of a cyclic convolution may have. -/
def largestCyclicFactor : Nat := 23

/-- The plan of any length by a chirp, over three quarters of the next power of two that has room
for it or, if they have none, over that power. -/
def chirped (size : Nat) : Plan size :=
  let exponent := (2 * size - 2).log2 + 1
  if 2 * size - 1 ≤ 3 * Nat.pow 2 (exponent - 2) then chirp size (threefoldPower (exponent - 2))
  else chirp size (powerOfTwo exponent)

/-- Whether a length from two on has a fixed plan. -/
def isShort (size : Nat) : Bool := decide (2 ≤ size) && (short? size).isSome

/-- The smaller factor of a product of two lengths with fixed plans, the one closest to the other
factor if there are several. -/
def shortFactor? (size : Nat) : Option Nat :=
  ((List.range' 2 31).filter fun factor =>
    decide (factor * factor ≤ size) && size % factor == 0 && isShort factor &&
      isShort (size / factor)).getLast?

/-- What is found is a factor. -/
theorem mul_div_of_shortFactor? {size factor : Nat} (found : shortFactor? size = some factor) :
    factor * (size / factor) = size := by
  have mem := (List.mem_filter.mp (List.mem_of_getLast? found)).2
  simp only [Bool.and_eq_true, beq_iff_eq] at mem
  exact Nat.mul_div_cancel' (Nat.dvd_of_mod_eq_zero mem.1.1.2)

/-- The exponent of the lowest power of two that is taken out of a length as a whole. -/
def lowestExponent : Nat := 6

/-- The two factors that a length is split into. A high power of two is split off as a whole, and
otherwise two factors with fixed plans are best. -/
def factors (size : Nat) : Nat × Nat :=
  if lowestExponent ≤ multiplicity 2 size then (primePower size 2, size / primePower size 2)
  else
    match shortFactor? size with
    | some factor => (factor, size / factor)
    | none => balancedSplit size

/-- The plan of a length. -/
def design (size : Nat) : Plan size :=
  match short? size with
  | some plan => plan
  | none =>
    let exponent := multiplicity 2 size
    if power : Nat.pow 2 exponent = size then power ▸ powerOfTwo exponent
    else if power : 3 * Nat.pow 2 exponent = size ∧ lowestExponent ≤ exponent then
      power.1 ▸ threefoldPower exponent
    else if prime : isPrime size = true ∧ 0 < size then
      if (primeFactors (size - 1)).all (decide <| · ≤ largestCyclicFactor) then
        have size_eq : size - 1 + 1 = size := by omega
        size_eq ▸ cyclic (design (size - 1))
      else chirped size
    else
      let left := (factors size).1
      let right := (factors size).2
      if split : left * right = size ∧ left < size ∧ right < size then
        split.1 ▸ ofFactors (design left) (design right)
      else direct size
termination_by size
decreasing_by all_goals omega

end Plan

end Waterfall.Fourier
