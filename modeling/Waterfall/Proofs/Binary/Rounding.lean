import Mathlib.Data.Nat.Dist
import Waterfall.Binary.Rounding

/-! # Rounding errors

A quotient is rounded to a whole number that no other one is nearer to, so it is off by at most one
half. Rounding to a number of significant bits is rounding to a multiple of the weight of the last
of them, which changes a value by at most that many halvings of it.
-/

namespace Waterfall.Binary

variable {value divisor precision : Nat}

/-- A quotient is rounded down or up, never away from the nearer side. -/
theorem divNearestEven_cases (value divisor : Nat) :
    divNearestEven value divisor = value / divisor ∧ 2 * (value % divisor) ≤ divisor ∨
      divNearestEven value divisor = value / divisor + 1 ∧ divisor ≤ 2 * (value % divisor) := by
  unfold divNearestEven
  dsimp only
  split_ifs
  · left
    omega
  · right
    omega
  · rcases Nat.mod_two_eq_zero_or_one (value / divisor) with even | odd
    · left
      omega
    · right
      omega

/-- No multiple of the divisor is nearer than the rounded one. -/
theorem dist_divNearestEven_le (value : Nat) (divisor_pos : 0 < divisor) (multiple : Nat) :
    Nat.dist (divNearestEven value divisor * divisor) value ≤
      Nat.dist (multiple * divisor) value := by
  have split := Nat.div_add_mod' value divisor
  have remainder_lt := Nat.mod_lt value divisor_pos
  have above : (value / divisor + 1) * divisor = value / divisor * divisor + divisor :=
    Nat.succ_mul _ _
  have sides : multiple * divisor ≤ value / divisor * divisor ∨
      (value / divisor + 1) * divisor ≤ multiple * divisor := by
    rcases Nat.lt_or_ge (value / divisor) multiple with higher | lower
    · exact .inr (Nat.mul_le_mul_right divisor higher)
    · exact .inl (Nat.mul_le_mul_right divisor lower)
  obtain ⟨rounded, near⟩ | ⟨rounded, near⟩ := divNearestEven_cases value divisor <;>
    rw [rounded, Nat.dist, Nat.dist] <;>
    omega

/-- The rounded multiple is off by at most half of the divisor. -/
theorem two_mul_dist_divNearestEven_le (value : Nat) (divisor_pos : 0 < divisor) :
    2 * Nat.dist (divNearestEven value divisor * divisor) value ≤ divisor := by
  have split := Nat.div_add_mod' value divisor
  have remainder_lt := Nat.mod_lt value divisor_pos
  have above : (value / divisor + 1) * divisor = value / divisor * divisor + divisor :=
    Nat.succ_mul _ _
  obtain ⟨rounded, near⟩ | ⟨rounded, near⟩ := divNearestEven_cases value divisor <;>
    rw [rounded, Nat.dist] <;>
    omega

theorem quantum_eq (precision value : Nat) :
    quantum precision value = 2 ^ (value.log2 + 1 - precision) := rfl

theorem quantum_pos (precision value : Nat) : 0 < quantum precision value :=
  Nat.two_pow_pos _

theorem quantum_le (extra : Nat) (precision_pos : 0 < precision)
    (fits : value < 2 ^ (precision + extra)) : quantum precision value ≤ 2 ^ extra := by
  have log_lt : value.log2 < precision + extra := by
    rcases Nat.eq_zero_or_pos value with rfl | pos
    · rw [Nat.log2_zero]
      exact Nat.add_pos_left precision_pos extra
    · exact (Nat.log2_lt (Nat.ne_of_gt pos)).mpr fits
  rw [quantum_eq]
  exact Nat.pow_le_pow_right Nat.two_pos (by omega)

theorem quantum_of_lt (precision_pos : 0 < precision) (fits : value < 2 ^ precision) :
    quantum precision value = 1 :=
  Nat.le_antisymm (quantum_le 0 precision_pos fits) (quantum_pos precision value)

theorem lt_two_pow_mul_quantum (precision value : Nat) :
    value < 2 ^ precision * quantum precision value := by
  rw [quantum_eq, ← Nat.pow_add]
  calc
    value < 2 ^ (value.log2 + 1) := Nat.lt_log2_self
    _ ≤ 2 ^ (precision + (value.log2 + 1 - precision)) :=
      Nat.pow_le_pow_right Nat.two_pos (by omega)

theorem two_pow_mul_quantum_le (long : 2 ^ precision ≤ value) :
    2 ^ precision * quantum precision value ≤ 2 * value := by
  have value_ne : value ≠ 0 := Nat.ne_of_gt (Nat.lt_of_lt_of_le (Nat.two_pow_pos _) long)
  have precision_le : precision ≤ value.log2 := (Nat.le_log2 value_ne).mpr long
  calc
    2 ^ precision * quantum precision value = 2 * 2 ^ value.log2 := by
      rw [quantum_eq, ← Nat.pow_add, ← Nat.pow_succ']
      congr 1
      omega
    _ ≤ 2 * value := Nat.mul_le_mul_left 2 (Nat.log2_self_le value_ne)

theorem roundSignificant_of_lt (precision_pos : 0 < precision) (fits : value < 2 ^ precision) :
    roundSignificant precision value = value := by
  rw [roundSignificant, quantum_of_lt precision_pos fits, Nat.mul_one, divNearestEven, Nat.div_one,
    Nat.mod_one]
  rfl

/-- Rounding to significant bits changes a value by at most that many halvings of it. -/
theorem two_pow_mul_dist_roundSignificant_le (precision_pos : 0 < precision) (value : Nat) :
    2 ^ precision * Nat.dist (roundSignificant precision value) value ≤ value := by
  rcases Nat.lt_or_ge value (2 ^ precision) with fits | long
  · rw [roundSignificant_of_lt precision_pos fits, Nat.dist_self, Nat.mul_zero]
    exact Nat.zero_le value
  · have error : 2 * Nat.dist (roundSignificant precision value) value ≤ quantum precision value :=
      two_mul_dist_divNearestEven_le value (quantum_pos precision value)
    have scaled := Nat.mul_le_mul_left (2 ^ precision) error
    have weight := two_pow_mul_quantum_le long
    rw [Nat.mul_left_comm] at scaled
    omega

/-- A quotient that is less than one half away from a whole number is rounded to it. -/
theorem divNearestUp_of_near {count : Nat} (lower : 2 * (count * divisor) ≤ 2 * value + divisor)
    (upper : 2 * value < 2 * (count * divisor) + divisor) : divNearestUp value divisor = count := by
  rw [divNearestUp]
  apply Nat.div_eq_of_lt_le
  · rw [Nat.mul_left_comm]
    exact lower
  · have above : (count + 1) * divisor = count * divisor + divisor := Nat.succ_mul count divisor
    rw [Nat.mul_left_comm, above]
    omega

end Waterfall.Binary
