/-! # Factors of a transform length

How a length is split decides how its transform is computed. This module holds what is needed of
arithmetic for that: prime powers, a balanced split into two factors, and the powers of a number
that run through all remainders of a prime.
-/

namespace Waterfall.Fourier

/-- Whether a number is prime. -/
def isPrime (number : Nat) : Bool :=
  decide (2 ≤ number) && (List.range' 2 (number - 2)).all fun factor => number % factor != 0

/-- The prime factors of a number, in ascending order. -/
def primeFactors (number : Nat) : List Nat :=
  (List.range' 2 (number - 1)).filter fun factor => number % factor == 0 && isPrime factor

/-- How often a number can be divided by a factor that is at least two. -/
def multiplicity (factor number : Nat) : Nat :=
  if 2 ≤ factor ∧ 0 < number ∧ number % factor = 0 then
    multiplicity factor (number / factor) + 1
  else 0
termination_by number
decreasing_by exact Nat.div_lt_self (by omega) (by omega)

/-- The highest power of a factor that divides a number. -/
def primePower (number factor : Nat) : Nat := Nat.pow factor (multiplicity factor number)

/-- Powers multiplied into two products, each into the one that is smaller so far. -/
def distribute (powers : List Nat) : Nat × Nat :=
  powers.foldl
    (fun (left, right) power =>
      if left ≤ right then (left * power, right) else (left, right * power))
    (1, 1)

/-- A number as a product of two factors of about equal size: a square by its root, a power of one
prime by halving the exponent, and everything else by distributing whole prime powers, those of two
and three last. -/
def balancedSplit (number : Nat) : Nat × Nat :=
  let primes := primeFactors number
  let halves := primes.map fun prime => Nat.pow prime (multiplicity prime number / 2)
  let root := halves.foldl (· * ·) 1
  if root * root = number ∨ primes.length = 1 then (number / root, root)
  else
    distribute (((primes.filter fun prime => decide (3 < prime)) ++ [2, 3]).map (primePower number))

/-- A power of a base, as a remainder. -/
def powerModulo (modulus base exponent : Nat) : Nat :=
  Nat.repeat (fun power => power * base % modulus) exponent (1 % modulus)

/-- The smallest number whose powers leave every remainder of a prime but zero. -/
def primitiveRoot (prime : Nat) : Nat :=
  let exponents := (primeFactors (prime - 1)).map fun factor => (prime - 1) / factor
  ((List.range' 2 (prime - 2)).find? fun base =>
    exponents.all fun exponent => powerModulo prime base exponent != 1).getD 1

/-- The remainders of the first `count` powers of a base, from the first power on. -/
def powers (modulus base : Nat) : Nat → Array Nat
  | 0 => #[]
  | count + 1 =>
    let lower := powers modulus base count
    lower.push (lower.back?.getD 1 * base % modulus)

end Waterfall.Fourier
