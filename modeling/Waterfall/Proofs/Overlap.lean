import Mathlib.Tactic.Linarith
import Waterfall.Analysis.Overlap
import Waterfall.Proofs.Binary.Nearest

/-! # Hops of exact ratios

A ratio that stands for a whole number of shared samples is rounded to single precision before it is
used, and the hop is computed from it in double precision. The single rounding costs at most
`2 ^ -25` for each sample of the window, the double roundings far less, so a window of up to
`2 ^ 22` samples keeps the product less than half a sample away from the exact number of new ones.
-/

namespace Waterfall.Overlap

open Binary

variable {length shared units : Nat} {ratio : Float32} {target : ℚ}

/-! ## Clamped ratios -/

theorem largest_eq : largest = 1 - 0.0001 := by decide +kernel

theorem read_largest : read largest = .finite false largestUnits := by decide +kernel

theorem largestUnits_le : largestUnits ≤ oneUnits := by decide

theorem value?_largest : value? largest = some ((largestUnits : ℚ) / oneUnits) :=
  value?_of_read read_largest

theorem value?_zero : value? (Float32.ofBits 0) = some 0 := by
  have zero : read (Float32.ofBits 0) = .finite false 0 := by decide +kernel
  rw [value?_of_read zero, signedValue, Nat.cast_zero, zero_div]

/-- The clamped ratio denotes the clamped magnitude. -/
theorem value?_clamp (ratio : Float32) :
    value? (clamp ratio) = some ((clampedUnits ratio : ℚ) / oneUnits) := by
  unfold clamp clampedUnits
  cases reading : read ratio with
  | nan => simp [value?_zero]
  | infinite negative => cases negative <;> simp [value?_zero, value?_largest]
  | finite negative units =>
    cases negative with
    | true =>
      rcases Nat.eq_zero_or_pos units with rfl | pos
      · simp [value?_of_read reading, signedValue]
      · simp [value?_zero, Nat.ne_of_gt pos]
    | false =>
      rcases Nat.lt_or_ge largestUnits units with above | within
      · simp [value?_largest, above, Nat.min_eq_right above.le]
      · simp [value?_of_read reading, signedValue, Nat.not_lt_of_le within, Nat.min_eq_left within]

/-- A ratio nearest to an admitted target is not changed by clamping. -/
theorem value?_of_isNearest (near : IsNearest ratio target) (target_nonneg : 0 ≤ target)
    (target_le : target ≤ largestUnits / oneUnits) :
    value? ratio = some ((clampedUnits ratio : ℚ) / oneUnits) := by
  obtain ⟨value, denotes, least⟩ := near
  obtain ⟨negative, units, reading, _, rfl⟩ := exists_short_of_value? denotes
  rw [denotes, clampedUnits, reading]
  congr 1
  cases negative with
  | true =>
    -- Zero would be nearer than a number below it.
    have nearer := least _ _ value?_zero
    have magnitude_nonneg : (0 : ℚ) ≤ units / oneUnits := by positivity
    rw [signedValue, zero_sub, abs_neg, abs_of_nonneg target_nonneg, ← neg_add', abs_neg,
      abs_of_nonneg (add_nonneg magnitude_nonneg target_nonneg)] at nearer
    have magnitude_eq : (units : ℚ) / oneUnits = 0 := by linarith
    simp [signedValue, magnitude_eq]
  | false =>
    -- The largest ratio would be nearer than a number above it.
    have nearer := least _ _ value?_largest
    have within : units ≤ largestUnits := by
      by_contra above
      have beyond : (largestUnits : ℚ) / oneUnits < units / oneUnits :=
        div_lt_div_of_pos_right (Nat.cast_lt.mpr (Nat.lt_of_not_le above)) oneUnits_pos
      rw [signedValue, abs_of_nonneg (by linarith), abs_of_nonneg (by linarith)] at nearer
      linarith
    simp [signedValue, Nat.min_eq_left within]

/-! ## The computed hop -/

theorem clampedUnits_le (ratio : Float32) : clampedUnits ratio ≤ oneUnits := by
  refine Nat.le_trans ?_ largestUnits_le
  unfold clampedUnits
  cases read ratio with
  | nan => exact Nat.zero_le _
  | infinite negative =>
    cases negative
    · exact Nat.le_refl _
    · exact Nat.zero_le _
  | finite negative units =>
    cases negative
    · exact Nat.min_le_right _ _
    · exact Nat.zero_le _

/-- The double-precision product is off by at most three of its last bits. -/
theorem two_pow_mul_dist_scaled_le (length_lt : length < 2 ^ 53) (factor : Nat) :
    2 ^ 53 * Nat.dist (scaled length factor) (length * factor) ≤ 3 * (length * factor) := by
  have length_exact : roundSignificant doublePrecision length = length :=
    roundSignificant_of_lt (by decide) length_lt
  rw [scaled, length_exact, doublePrecision]
  have factor_error := two_pow_mul_dist_roundSignificant_le (by decide : 0 < 53) factor
  have product_error := two_pow_mul_dist_roundSignificant_le (by decide : 0 < 53)
    (length * roundSignificant 53 factor)
  have carried : 2 ^ 53 * Nat.dist (length * roundSignificant 53 factor) (length * factor) ≤
      length * factor := by
    rw [Nat.dist_mul_left, Nat.mul_left_comm]
    exact Nat.mul_le_mul_left length factor_error
  have path := Nat.dist.triangle_inequality
    (roundSignificant 53 (length * roundSignificant 53 factor))
    (length * roundSignificant 53 factor) (length * factor)
  have product_le : length * roundSignificant 53 factor ≤ 2 * (length * factor) := by
    rw [Nat.dist] at carried
    omega
  omega

/-- The product rounds to the exact number of new samples where the ratio's own error is at most
`2 ^ -25`. -/
theorem divNearestUp_scaled (length_le : length ≤ 2 ^ 22) (units_le : units ≤ oneUnits)
    (shared_le : shared ≤ length)
    (error : Nat.dist (units * length) (shared * oneUnits) * 2 ^ 25 ≤ oneUnits * length) :
    divNearestUp (scaled length (oneUnits - units)) oneUnits = length - shared := by
  have rounding := two_pow_mul_dist_scaled_le
    (Nat.lt_of_le_of_lt length_le (by decide)) (oneUnits - units)
  have exact_le : shared * oneUnits ≤ oneUnits * length := by
    rw [Nat.mul_comm]
    exact Nat.mul_le_mul_left oneUnits shared_le
  have units_mul_le : units * length ≤ oneUnits * length := Nat.mul_le_mul_right length units_le
  have window_le : oneUnits * length ≤ oneUnits * 2 ^ 22 := Nat.mul_le_mul_left oneUnits length_le
  have count : (length - shared) * oneUnits = oneUnits * length - shared * oneUnits := by
    rw [Nat.sub_mul, Nat.mul_comm length]
  have unrounded : length * (oneUnits - units) = oneUnits * length - units * length := by
    rw [Nat.mul_comm, Nat.sub_mul]
  rw [unrounded] at rounding
  rw [Nat.dist] at rounding error
  have one_pos : 0 < oneUnits := Nat.two_pow_pos 149
  apply divNearestUp_of_near <;>
    rw [count] <;>
    omega

/-- The ratio nearest to an admitted share of a window gives the number of its other samples. -/
theorem hop_of_isNearest (length_le : length ≤ 2 ^ 22) (shared_lt : shared < length)
    (admitted : (shared : ℚ) / length ≤ largestUnits / oneUnits)
    (near : IsNearest ratio (shared / length)) : hop length ratio = length - shared := by
  have length_pos : 0 < length := Nat.lt_of_le_of_lt (Nat.zero_le shared) shared_lt
  have denotes := value?_of_isNearest near (by positivity) admitted
  have error := near.abs_sub_le shared_lt denotes
  rw [abs_sub_ratio_le_iff _ _ _ length_pos] at error
  have rounded := divNearestUp_scaled length_le (clampedUnits_le ratio) shared_lt.le error
  rw [hop, rounded]
  omega

/-- Every ratio, also an infinite one or NaN, gives a hop of at least one sample and at most a
window. The ratio nearest to an admitted share of up to `2 ^ 22` samples loses none to rounding. -/
theorem hop_usable_and_exact :
    (∀ (length : Nat) (ratio : Float32),
      1 ≤ hop length ratio ∧ hop length ratio ≤ max length 1) ∧
    ∀ (length shared : Nat) (ratio : Float32) (top : ℚ),
      1 ≤ length → length ≤ 2 ^ 22 → shared < length →
      value? largest = some top → (shared : ℚ) / length ≤ top →
      IsNearest ratio (shared / length) → hop length ratio = length - shared := by
  refine ⟨fun length ratio => ⟨one_le_hop length ratio, hop_le length ratio⟩, ?_⟩
  intro length shared ratio top _ length_le shared_lt top_denotes admitted near
  obtain rfl := Option.some.inj (value?_largest.symm.trans top_denotes)
  exact hop_of_isNearest length_le shared_lt admitted near

/-- A ratio of 53 of 100 samples, which single precision cannot hold, leaves 47 new ones. -/
theorem hop_of_fifty_three_percent :
    IsNearest 0.53 ((53 : Nat) / (100 : Nat)) ∧ hop 100 0.53 = 47 := by
  have computed : (0.53 : Float32) = signed false (nearest 53 100) := by decide +kernel
  have near : IsNearest 0.53 ((53 : Nat) / (100 : Nat)) := by
    rw [computed]
    exact isNearest_nearest (by decide) (by decide)
  have admitted : ((53 : Nat) : ℚ) / (100 : Nat) ≤ largestUnits / oneUnits := by
    rw [div_le_div_iff₀ (by norm_num) oneUnits_pos]
    exact_mod_cast (by decide : 53 * oneUnits ≤ largestUnits * 100)
  exact ⟨near, hop_usable_and_exact.2 100 53 0.53 _ (by decide) (by decide) (by decide)
    value?_largest admitted near⟩

end Waterfall.Overlap
