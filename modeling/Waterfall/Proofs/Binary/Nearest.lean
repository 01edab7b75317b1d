import Mathlib.Algebra.Order.Field.Rat
import Mathlib.Data.Nat.Log
import Mathlib.Tactic.Positivity
import Waterfall.Proofs.Binary.Rounding
import Waterfall.Proofs.Binary.Single

/-! # Nearest single-precision numbers

A quotient is rounded to a multiple of the weight that its own first 24 bits end with. Every
magnitude with 24 bits is such a multiple too, unless it is below all those with the leading bit of
the quotient. So no other single-precision number is nearer to the quotient.
-/

namespace Waterfall.Binary

variable {units numerator denominator : Nat}

/-! ## The nearest magnitude -/

/-- The magnitude that a quotient is rounded to. -/
def nearestUnits (numerator denominator : Nat) : Nat :=
  let scaled := numerator * oneUnits
  let step := quantum 24 (scaled / denominator)
  divNearestEven scaled (denominator * step) * step

theorem nearest_eq (numerator denominator : Nat) :
    nearest numerator denominator = encode (nearestUnits numerator denominator) := rfl

theorem nearestUnits_mul (numerator denominator : Nat) :
    nearestUnits numerator denominator * denominator =
      divNearestEven (numerator * oneUnits)
        (denominator * quantum 24 (numerator * oneUnits / denominator)) *
      (denominator * quantum 24 (numerator * oneUnits / denominator)) := by
  rw [nearestUnits, Nat.mul_assoc, Nat.mul_comm denominator]

theorem isShort_nearestUnits (numerator denominator : Nat) :
    IsShort (nearestUnits numerator denominator) := by
  refine isShort_of_le _ ?_
  have fits : numerator * oneUnits / denominator /
      quantum 24 (numerator * oneUnits / denominator) < 2 ^ 24 :=
    (Nat.div_lt_iff_lt_mul (quantum_pos _ _)).mpr (lt_two_pow_mul_quantum _ _)
  rw [Nat.div_div_eq_div_mul] at fits
  obtain ⟨rounded, _⟩ | ⟨rounded, _⟩ := divNearestEven_cases (numerator * oneUnits)
    (denominator * quantum 24 (numerator * oneUnits / denominator)) <;>
    rw [rounded] <;>
    omega

/-- No short magnitude is nearer to a quotient than the one it is rounded to. -/
theorem dist_nearestUnits_le (numerator : Nat) (denominator_pos : 0 < denominator)
    (short : IsShort units) :
    Nat.dist (nearestUnits numerator denominator * denominator) (numerator * oneUnits) ≤
      Nat.dist (units * denominator) (numerator * oneUnits) := by
  rw [nearestUnits_mul]
  generalize quotient_eq : numerator * oneUnits / denominator = quotient
  have scaled_ge : quotient * denominator ≤ numerator * oneUnits := by
    rw [← quotient_eq]
    exact Nat.div_mul_le_self _ _
  have rounded := dist_divNearestEven_le (numerator * oneUnits)
    (Nat.mul_pos denominator_pos (quantum_pos 24 quotient))
  rcases short.dvd_or_lt (quotient.log2 + 1 - 24) with ⟨multiple, rfl⟩ | below
  · rw [Nat.mul_comm (2 ^ _), ← quantum_eq, Nat.mul_assoc, Nat.mul_comm (quantum _ _)]
    exact rounded multiple
  · rcases Nat.lt_or_ge quotient (2 ^ 24) with fits | long
    · rw [quantum_of_lt (by decide) fits, Nat.mul_one] at rounded ⊢
      exact rounded units
    · have weight := two_pow_mul_quantum_le long
      have lower : units * denominator ≤ 2 ^ 23 * (denominator * quantum 24 quotient) := by
        rw [Nat.mul_left_comm, Nat.mul_comm units]
        exact Nat.mul_le_mul_left denominator (Nat.le_of_lt below)
      have upper : 2 ^ 23 * (denominator * quantum 24 quotient) ≤ numerator * oneUnits := by
        refine Nat.le_trans ?_ scaled_ge
        rw [Nat.mul_left_comm, Nat.mul_comm quotient]
        exact Nat.mul_le_mul_left denominator (by omega)
      refine Nat.le_trans (rounded (2 ^ 23)) ?_
      rw [Nat.dist_eq_sub_of_le upper, Nat.dist_eq_sub_of_le (Nat.le_trans lower upper)]
      exact Nat.sub_le_sub_left lower _

/-- A ratio of at most one is not rounded beyond one. -/
theorem nearestUnits_le_oneUnits (denominator_pos : 0 < denominator)
    (ratio_le : numerator ≤ denominator) : nearestUnits numerator denominator ≤ oneUnits := by
  have one_short : IsShort oneUnits := ⟨2 ^ 23, 126, by decide, by decide⟩
  have scaled_le : numerator * oneUnits ≤ oneUnits * denominator := by
    rw [Nat.mul_comm]
    exact Nat.mul_le_mul_left oneUnits ratio_le
  have nearer := dist_nearestUnits_le numerator denominator_pos one_short
  rw [Nat.dist_eq_sub_of_le_right scaled_le, Nat.dist] at nearer
  have product_le : nearestUnits numerator denominator * denominator ≤ oneUnits * denominator := by
    omega
  exact Nat.le_of_mul_le_mul_right product_le denominator_pos

/-- A ratio below one is rounded by at most half of the weight of its last bit. -/
theorem two_mul_dist_nearestUnits_le (ratio_lt : numerator < denominator) :
    2 * Nat.dist (nearestUnits numerator denominator * denominator) (numerator * oneUnits) ≤
      denominator * 2 ^ 125 := by
  have denominator_pos : 0 < denominator := Nat.lt_of_le_of_lt (Nat.zero_le _) ratio_lt
  have quotient_lt : numerator * oneUnits / denominator < 2 ^ (24 + 125) := by
    rw [Nat.div_lt_iff_lt_mul denominator_pos, Nat.mul_comm, oneUnits_eq]
    exact Nat.mul_lt_mul_of_pos_left ratio_lt (Nat.two_pow_pos 149)
  rw [nearestUnits_mul]
  calc
    _ ≤ denominator * quantum 24 (numerator * oneUnits / denominator) :=
      two_mul_dist_divNearestEven_le _ (Nat.mul_pos denominator_pos (quantum_pos _ _))
    _ ≤ denominator * 2 ^ 125 :=
      Nat.mul_le_mul_left denominator (quantum_le 125 (by decide) quotient_lt)

/-- The number computed for a ratio of at most one is finite. -/
theorem read_nearest (denominator_pos : 0 < denominator) (ratio_le : numerator ≤ denominator) :
    read (signed false (nearest numerator denominator)) =
      .finite false (nearestUnits numerator denominator) := by
  rw [nearest_eq]
  refine read_signed_encode (isShort_nearestUnits numerator denominator) ?_
  have units_le := nearestUnits_le_oneUnits denominator_pos ratio_le
  calc
    (nearestUnits numerator denominator).log2 ≤ oneUnits.log2 := by
      rw [Nat.log2_eq_log_two, Nat.log2_eq_log_two]
      exact Nat.log_mono_right units_le
    _ < 277 := by decide

/-! ## Exact values -/

/-- The value of a sign and a magnitude. -/
def signedValue : Bool → Nat → ℚ
  | false, units => units / oneUnits
  | true, units => -(units / oneUnits)

/-- The rational number that a single-precision number denotes, where it is finite. -/
def value? (number : Float32) : Option ℚ :=
  match read number with
  | .finite negative units => some (signedValue negative units)
  | _ => none

/-- A number with a finite value that no other finite value is nearer to the target. -/
def IsNearest (number : Float32) (target : ℚ) : Prop :=
  ∃ value, value? number = some value ∧
    ∀ other otherValue, value? other = some otherValue →
      |value - target| ≤ |otherValue - target|

variable {number : Float32} {value target : ℚ}

theorem value?_of_read {negative : Bool} (finite : read number = .finite negative units) :
    value? number = some (signedValue negative units) := by
  rw [value?, finite]

/-- A value is a short magnitude with a sign. -/
theorem exists_short_of_value? (denotes : value? number = some value) :
    ∃ negative units, read number = .finite negative units ∧ IsShort units ∧
      value = signedValue negative units := by
  cases reading : read number with
  | nan =>
    rw [value?, reading] at denotes
    contradiction
  | infinite negative =>
    rw [value?, reading] at denotes
    contradiction
  | finite negative units =>
    rw [value?_of_read reading] at denotes
    exact ⟨negative, units, rfl, isShort_of_readBits reading, (Option.some.inj denotes).symm⟩

theorem cast_dist (left right : Nat) : (Nat.dist left right : ℚ) = |(left : ℚ) - right| := by
  rcases Nat.le_total left right with below | above
  · rw [Nat.dist_eq_sub_of_le below, Nat.cast_sub below, abs_sub_comm, abs_of_nonneg]
    exact sub_nonneg.mpr (Nat.cast_le.mpr below)
  · rw [Nat.dist_eq_sub_of_le_right above, Nat.cast_sub above, abs_of_nonneg]
    exact sub_nonneg.mpr (Nat.cast_le.mpr above)

theorem oneUnits_pos : (0 : ℚ) < oneUnits := Nat.cast_pos.mpr (Nat.two_pow_pos 149)

/-- The distance of a magnitude from a ratio, over their common denominator. -/
theorem abs_sub_ratio (units : Nat) (denominator_pos : 0 < denominator) :
    |(units : ℚ) / oneUnits - numerator / denominator| =
      Nat.dist (units * denominator) (numerator * oneUnits) / (oneUnits * denominator) := by
  have divisor_pos : (0 : ℚ) < denominator := Nat.cast_pos.mpr denominator_pos
  rw [div_sub_div _ _ oneUnits_pos.ne' divisor_pos.ne', abs_div,
    abs_of_pos (mul_pos oneUnits_pos divisor_pos), cast_dist, Nat.cast_mul, Nat.cast_mul,
    mul_comm (oneUnits : ℚ) numerator]

theorem abs_sub_ratio_le_iff (units numerator bits : Nat) (denominator_pos : 0 < denominator) :
    |(units : ℚ) / oneUnits - numerator / denominator| ≤ 1 / 2 ^ bits ↔
      Nat.dist (units * denominator) (numerator * oneUnits) * 2 ^ bits ≤
        oneUnits * denominator := by
  have divisor_pos : (0 : ℚ) < denominator := Nat.cast_pos.mpr denominator_pos
  rw [abs_sub_ratio units denominator_pos,
    div_le_div_iff₀ (mul_pos oneUnits_pos divisor_pos) (by positivity), one_mul]
  norm_cast

/-- The number computed for a ratio has the value of the magnitude that it is rounded to. -/
theorem value?_nearest (denominator_pos : 0 < denominator) (ratio_le : numerator ≤ denominator) :
    value? (signed false (nearest numerator denominator)) =
      some ((nearestUnits numerator denominator : ℚ) / oneUnits) :=
  value?_of_read (read_nearest denominator_pos ratio_le)

/-- No magnitude is nearer to a ratio than the one it is rounded to. -/
theorem abs_nearestUnits_sub_le (numerator : Nat) (denominator_pos : 0 < denominator)
    (short : IsShort units) :
    |(nearestUnits numerator denominator : ℚ) / oneUnits - numerator / denominator| ≤
      |(units : ℚ) / oneUnits - numerator / denominator| := by
  have nearer := dist_nearestUnits_le numerator denominator_pos short
  rw [abs_sub_ratio _ denominator_pos, abs_sub_ratio _ denominator_pos]
  exact div_le_div_of_nonneg_right (Nat.cast_le.mpr nearer)
    (mul_nonneg oneUnits_pos.le (Nat.cast_nonneg _))

/-- The number computed for a ratio of at most one is a nearest one. -/
theorem isNearest_nearest (denominator_pos : 0 < denominator)
    (ratio_le : numerator ≤ denominator) :
    IsNearest (signed false (nearest numerator denominator)) (numerator / denominator) := by
  refine ⟨_, value?_nearest denominator_pos ratio_le, ?_⟩
  intro other otherValue denotes
  obtain ⟨negative, units, _, short, rfl⟩ := exists_short_of_value? denotes
  cases negative with
  | false => exact abs_nearestUnits_sub_le numerator denominator_pos short
  | true =>
    -- Zero lies between a negative number and the ratio.
    have zero_nearer := abs_nearestUnits_sub_le numerator denominator_pos isShort_zero
    have ratio_nonneg : (0 : ℚ) ≤ numerator / denominator := by positivity
    have magnitude_nonneg : (0 : ℚ) ≤ units / oneUnits := by positivity
    calc
      _ ≤ |((0 : Nat) : ℚ) / oneUnits - numerator / denominator| := zero_nearer
      _ = numerator / denominator := by
        rw [Nat.cast_zero, zero_div, zero_sub, abs_neg, abs_of_nonneg ratio_nonneg]
      _ ≤ units / oneUnits + numerator / denominator := le_add_of_nonneg_left magnitude_nonneg
      _ = |-((units : ℚ) / oneUnits) - numerator / denominator| := by
        rw [← neg_add', abs_neg, abs_of_nonneg (add_nonneg magnitude_nonneg ratio_nonneg)]

/-- A number nearest to a ratio below one is off by at most half of the weight of its last bit. -/
theorem IsNearest.abs_sub_le (near : IsNearest number (numerator / denominator))
    (ratio_lt : numerator < denominator) (denotes : value? number = some value) :
    |value - numerator / denominator| ≤ 1 / 2 ^ 25 := by
  have denominator_pos : 0 < denominator := Nat.lt_of_le_of_lt (Nat.zero_le _) ratio_lt
  obtain ⟨nearestValue, nearest_denotes, least⟩ := near
  obtain rfl : value = nearestValue := Option.some.inj (denotes.symm.trans nearest_denotes)
  have rounded := two_mul_dist_nearestUnits_le ratio_lt
  refine (least _ _ (value?_nearest denominator_pos ratio_lt.le)).trans ?_
  rw [abs_sub_ratio_le_iff _ _ _ denominator_pos]
  rw [oneUnits_eq] at rounded ⊢
  omega

end Waterfall.Binary
