import Mathlib.Algebra.Group.Nat.Defs
import Mathlib.Tactic.SplitIfs
import Waterfall.Binary.Single

/-! # Magnitudes of single precision

The finite single-precision numbers are the whole multiples of the unit with at most 24 significant
bits, up to a largest one: every bit pattern of a finite number denotes such a magnitude, and every
such magnitude below infinity is read back from the bit pattern that encodes it.
-/

namespace Waterfall.Binary

variable {units bits : Nat}

/-- A magnitude with at most 24 significant bits. -/
def IsShort (units : Nat) : Prop :=
  ∃ significand shift, significand < 2 ^ 24 ∧ units = significand * 2 ^ shift

theorem isShort_of_le {significand : Nat} (shift : Nat) (significand_le : significand ≤ 2 ^ 24) :
    IsShort (significand * 2 ^ shift) := by
  rcases Nat.lt_or_eq_of_le significand_le with small | rfl
  · exact ⟨significand, shift, small, rfl⟩
  · refine ⟨2 ^ 23, shift + 1, by decide, ?_⟩
    rw [← Nat.pow_add, ← Nat.pow_add]
    congr 1
    omega

theorem isShort_zero : IsShort 0 := ⟨0, 0, by decide, rfl⟩

/-- A short magnitude is a multiple of a power of two, or it has no bits above it. -/
theorem IsShort.dvd_or_lt (short : IsShort units) (exponent : Nat) :
    2 ^ exponent ∣ units ∨ units < 2 ^ 23 * 2 ^ exponent := by
  obtain ⟨significand, shift, small, rfl⟩ := short
  rcases Nat.lt_or_ge shift exponent with below | above
  · right
    calc
      significand * 2 ^ shift < 2 ^ 24 * 2 ^ shift :=
        Nat.mul_lt_mul_of_pos_right small (Nat.two_pow_pos shift)
      _ = 2 ^ (23 + (shift + 1)) := by rw [← Nat.pow_add]; congr 1; omega
      _ ≤ 2 ^ (23 + exponent) := Nat.pow_le_pow_right Nat.two_pos (by omega)
      _ = 2 ^ 23 * 2 ^ exponent := Nat.pow_add 2 23 exponent
  · left
    exact Nat.dvd_mul_left_of_dvd (Nat.pow_dvd_pow 2 above) significand

/-! ## Bit patterns -/

theorem oneUnits_eq : oneUnits = 2 ^ 149 := rfl

theorem exponentStep_eq : exponentStep = 2 ^ 23 := rfl

theorem signBit_eq : signBit = 2 ^ 31 := rfl

theorem infinityBits_eq : infinityBits = 255 * 2 ^ 23 := rfl

theorem readBits_of_lt (small : units < exponentStep) :
    readBits units = .finite false units := by
  have unsigned : ¬signBit ≤ units := Nat.not_le_of_lt (Nat.lt_trans small (by decide))
  unfold readBits
  dsimp only
  rw [Nat.div_eq_of_lt small, Nat.zero_mod, if_neg (by decide), if_pos rfl, Nat.mod_eq_of_lt small,
    decide_eq_false unsigned]

theorem readBits_of_normal {exponent fraction : Nat} (exponent_pos : 0 < exponent)
    (exponent_lt : exponent < 255) (fraction_lt : fraction < exponentStep) :
    readBits (exponent * exponentStep + fraction) =
      .finite false ((exponentStep + fraction) * 2 ^ (exponent - 1)) := by
  have leading : (exponent * exponentStep + fraction) / exponentStep % 256 = exponent := by
    rw [exponentStep_eq] at fraction_lt ⊢
    omega
  have trailing : (exponent * exponentStep + fraction) % exponentStep = fraction := by
    rw [exponentStep_eq] at fraction_lt ⊢
    omega
  have unsigned : ¬signBit ≤ exponent * exponentStep + fraction := by
    rw [exponentStep_eq] at fraction_lt ⊢
    rw [signBit_eq]
    omega
  unfold readBits
  dsimp only
  rw [leading, trailing, if_neg (by omega), if_neg (by omega), decide_eq_false unsigned]
  rfl

/-- A finite bit pattern denotes a short magnitude. -/
theorem isShort_of_readBits {negative : Bool} (finite : readBits bits = .finite negative units) :
    IsShort units := by
  have fraction_lt : bits % exponentStep < 2 ^ 23 := Nat.mod_lt _ (Nat.two_pow_pos 23)
  unfold readBits at finite
  dsimp only at finite
  split_ifs at finite
  · obtain ⟨_, rfl⟩ := Reading.finite.inj finite
    exact ⟨bits % exponentStep, 0, by omega, (Nat.mul_one _).symm⟩
  · obtain ⟨_, rfl⟩ := Reading.finite.inj finite
    refine ⟨exponentStep + bits % exponentStep, _, ?_, rfl⟩
    rw [exponentStep_eq] at *
    omega

theorem log2_eq_of_normal {significand : Nat} (shift : Nat) (leading : 2 ^ 23 ≤ significand)
    (significand_lt : significand < 2 ^ 24) : (significand * 2 ^ shift).log2 = 23 + shift := by
  have shift_pos := Nat.two_pow_pos shift
  have low : 2 ^ (23 + shift) ≤ significand * 2 ^ shift := by
    rw [Nat.pow_add]
    exact Nat.mul_le_mul_right _ leading
  have high : significand * 2 ^ shift < 2 ^ (23 + shift + 1) := by
    rw [Nat.add_right_comm, Nat.pow_add]
    exact Nat.mul_lt_mul_of_pos_right significand_lt shift_pos
  exact (Nat.log2_eq_iff (Nat.ne_of_gt (Nat.lt_of_lt_of_le (Nat.two_pow_pos _) low))).mpr
    ⟨low, high⟩

/-- A short magnitude with 24 bits or more has a form whose significand has exactly 24. -/
theorem IsShort.exists_normal (short : IsShort units) (long : 2 ^ 23 ≤ units) :
    ∃ significand shift, 2 ^ 23 ≤ significand ∧ significand < 2 ^ 24 ∧
      units = significand * 2 ^ shift := by
  have units_ne : units ≠ 0 := Nat.ne_of_gt (Nat.lt_of_lt_of_le (Nat.two_pow_pos 23) long)
  obtain ⟨shift, log_eq⟩ : ∃ shift, units.log2 = 23 + shift :=
    Nat.exists_eq_add_of_le ((Nat.le_log2 units_ne).mpr long)
  have low : 2 ^ 23 * 2 ^ shift ≤ units := by
    rw [← Nat.pow_add, ← log_eq]
    exact Nat.log2_self_le units_ne
  have high : units < 2 ^ 24 * 2 ^ shift := by
    have below : units < 2 ^ (units.log2 + 1) := Nat.lt_log2_self
    rwa [log_eq, Nat.add_right_comm, Nat.pow_add] at below
  obtain ⟨significand, rfl⟩ : 2 ^ shift ∣ units :=
    (short.dvd_or_lt shift).resolve_right (Nat.not_lt_of_le low)
  rw [Nat.mul_comm (2 ^ shift)] at low high
  exact ⟨significand, shift, Nat.le_of_mul_le_mul_right low (Nat.two_pow_pos shift),
    Nat.lt_of_mul_lt_mul_right high, Nat.mul_comm _ _⟩

theorem encode_of_normal {significand shift : Nat} (leading : 2 ^ 23 ≤ significand)
    (significand_lt : significand < 2 ^ 24) (shift_le : shift ≤ 253) :
    encode (significand * 2 ^ shift) =
      (shift + 1) * exponentStep + (significand - exponentStep) := by
  have finite : (shift + 1) * exponentStep + (significand - exponentStep) ≤ infinityBits := by
    rw [exponentStep_eq, infinityBits_eq]
    omega
  have quotient : significand * 2 ^ shift / Nat.pow 2 shift = significand :=
    Nat.mul_div_cancel _ (Nat.two_pow_pos shift)
  have normal : ¬significand * 2 ^ shift < exponentStep :=
    Nat.not_lt_of_le (Nat.le_trans leading (Nat.le_mul_of_pos_right _ (Nat.two_pow_pos shift)))
  unfold encode
  dsimp only
  rw [if_neg normal, log2_eq_of_normal shift leading significand_lt, Nat.add_sub_cancel_left,
    quotient, Nat.min_eq_left finite]

/-- A short magnitude below infinity is read back from its bit pattern. -/
theorem readBits_encode (short : IsShort units) (in_range : units.log2 < 277) :
    readBits (encode units) = .finite false units := by
  rcases Nat.lt_or_ge units exponentStep with subnormal | normal
  · rw [encode, if_pos subnormal]
    exact readBits_of_lt subnormal
  · obtain ⟨significand, shift, leading, significand_lt, rfl⟩ := short.exists_normal normal
    rw [log2_eq_of_normal shift leading significand_lt] at in_range
    rw [encode_of_normal leading significand_lt (by omega),
      readBits_of_normal (by omega : 0 < shift + 1) (by omega) (by rw [exponentStep_eq]; omega),
      exponentStep_eq, Nat.add_sub_cancel' leading, Nat.add_sub_cancel]

theorem encode_lt (units : Nat) : encode units < 2 ^ 32 := by
  unfold encode
  split_ifs with subnormal
  · exact Nat.lt_trans subnormal (by decide)
  · exact Nat.lt_of_le_of_lt (Nat.min_le_right _ _) (by decide)

/-! ## The bits of a number

A number is made from a pattern by unpacking it and gives its pattern by packing. A finite number is
packed as it was.
-/

section

open Float.Model UnpackedFloat

variable (sign : Sign) {mantissa : Nat} (mantissa_pos : 0 < mantissa)

theorem pack_of_lt (small : mantissa < 2 ^ 23) :
    (finite sign mantissa (-149) mantissa_pos).pack .binary32 =
      packComponents .binary32 sign 0#8 (BitVec.ofNat 23 mantissa) := by
  have short : ¬mantissa.log2 + 1 = 24 := by
    have log_lt := (Nat.log2_lt (Nat.ne_of_gt mantissa_pos)).mpr small
    omega
  exact if_neg short

theorem pack_of_normal {exponent : Nat} (exponent_lt : exponent < 255)
    (leading : 2 ^ 23 ≤ mantissa) (mantissa_lt : mantissa < 2 ^ 24) :
    (finite sign mantissa (exponent - 150) mantissa_pos).pack .binary32 =
      packComponents .binary32 sign (BitVec.ofNat 8 exponent) (BitVec.ofNat 23 mantissa) := by
  have long : mantissa.log2 + 1 = 24 := by
    have log_eq := log2_eq_of_normal 0 leading mantissa_lt
    rw [Nat.pow_zero, Nat.mul_one] at log_eq
    rw [log_eq]
  have biased : ((exponent : Int) - 150 + (127 : Nat) + (23 : Nat)).toNat = exponent := by omega
  have bounded : ¬2 ^ 8 ≤ ((exponent : Int) - 150 + (127 : Nat) + (23 : Nat)).toNat + 1 := by
    omega
  calc
    _ = packComponents .binary32 sign
        (BitVec.ofNat 8 ((exponent : Int) - 150 + (127 : Nat) + (23 : Nat)).toNat)
        (BitVec.ofNat 23 mantissa) := (if_neg bounded).trans (if_pos long)
    _ = _ := by rw [biased]

variable (pattern : BitVec Format.binary32.numBits)

theorem packComponents_unpacked : packComponents .binary32 (Sign.ofBitVec (unpackSign pattern))
    (unpackExponent pattern) (unpackMantissa pattern) = pattern := by
  have signed (bit : BitVec 1) : (Sign.ofBitVec bit).toBitVec = bit := by decide +revert
  calc
    _ = (Sign.ofBitVec (unpackSign pattern)).toBitVec ++ unpackExponent pattern ++
        unpackMantissa pattern := rfl
    _ = pattern.extractLsb' 31 1 ++ pattern.extractLsb' 23 8 ++ pattern.extractLsb' 0 23 := by
      rw [signed]
      rfl
    _ = pattern.extractLsb' 0 32 := by
      rw [BitVec.extractLsb'_append_extractLsb'_eq_extractLsb' (by decide),
        BitVec.extractLsb'_append_extractLsb'_eq_extractLsb' (by decide)]
    _ = pattern := BitVec.extractLsb'_eq_self

theorem pack_unpack_of_low (low : unpackExponent pattern = 0#8) :
    (UnpackedFloat.unpack .binary32 pattern).pack .binary32 = pattern := by
  have regular : unpackExponent pattern ≠ -1#8 := by
    rw [low]
    decide
  have whole := packComponents_unpacked pattern
  rw [low] at whole
  by_cases nought : unpackMantissa pattern = 0#23
  · have unpacked : UnpackedFloat.unpack .binary32 pattern =
        zero (Sign.ofBitVec (unpackSign pattern)) :=
      (if_neg regular).trans ((if_pos low).trans (dif_pos nought))
    rw [nought] at whole
    rw [unpacked]
    exact whole
  · have mantissa_pos : 0 < (unpackMantissa pattern).toNat :=
      Nat.pos_of_ne_zero fun zero => nought (BitVec.eq_of_toNat_eq zero)
    have unpacked : UnpackedFloat.unpack .binary32 pattern =
        finite (Sign.ofBitVec (unpackSign pattern)) (unpackMantissa pattern).toNat
          ((unpackExponent pattern).toNat - 150 + 1) mantissa_pos :=
      (if_neg regular).trans ((if_pos low).trans (dif_neg nought))
    have packed := pack_of_lt (Sign.ofBitVec (unpackSign pattern)) mantissa_pos
      (unpackMantissa pattern).isLt
    rw [BitVec.ofNat_toNat, BitVec.setWidth_eq] at packed
    rw [low] at unpacked
    rw [unpacked]
    exact packed.trans whole

/-- The leading bit of a normal number is not stored. -/
theorem toNat_leading_append (mantissa : BitVec 23) :
    (1#1 ++ mantissa).toNat = 2 ^ 23 + mantissa.toNat := by
  rw [BitVec.toNat_append, ← Nat.shiftLeft_add_eq_or_of_lt mantissa.isLt]
  rfl

theorem pack_unpack_of_normal (normal : unpackExponent pattern ≠ 0#8)
    (regular : unpackExponent pattern ≠ -1#8) :
    (UnpackedFloat.unpack .binary32 pattern).pack .binary32 = pattern := by
  have exponent_lt : (unpackExponent pattern).toNat < 255 := by
    have exponent_ne : (unpackExponent pattern).toNat ≠ 255 := fun special =>
      regular (BitVec.eq_of_toNat_eq special)
    have exponent_lt : (unpackExponent pattern).toNat < 256 := (unpackExponent pattern).isLt
    omega
  have mantissa_lt : (unpackMantissa pattern).toNat < 2 ^ 23 := (unpackMantissa pattern).isLt
  have joined := toNat_leading_append (unpackMantissa pattern)
  have fraction : BitVec.ofNat 23 (1#1 ++ unpackMantissa pattern).toNat =
      unpackMantissa pattern := by
    apply BitVec.eq_of_toNat_eq
    rw [joined, BitVec.toNat_ofNat, Nat.add_mod_left, Nat.mod_eq_of_lt mantissa_lt]
  have unpacked : UnpackedFloat.unpack .binary32 pattern =
      finite (Sign.ofBitVec (unpackSign pattern)) (1#1 ++ unpackMantissa pattern).toNat
        ((unpackExponent pattern).toNat - 150) (by omega) :=
    (if_neg regular).trans (if_neg normal)
  rw [unpacked, pack_of_normal _ _ exponent_lt (by omega) (by omega), fraction,
    BitVec.ofNat_toNat, BitVec.setWidth_eq]
  exact packComponents_unpacked pattern

/-- A pattern that is neither infinite nor a NaN is packed as it was. -/
theorem pack_unpack_of_finite (regular : unpackExponent pattern ≠ -1#8) :
    (UnpackedFloat.unpack .binary32 pattern).pack .binary32 = pattern := by
  by_cases low : unpackExponent pattern = 0#8
  · exact pack_unpack_of_low pattern low
  · exact pack_unpack_of_normal pattern low regular

end

/-- The bit pattern of a finite number is kept; only those of NaN are made one. -/
theorem toBits_ofBits {pattern : UInt32} {negative : Bool}
    (finite : readBits pattern.toNat = .finite negative units) :
    (Float32.ofBits pattern).toBits = pattern := by
  refine congrArg UInt32.ofBitVec (pack_unpack_of_finite pattern.toBitVec ?_)
  intro special
  have exponent := congrArg BitVec.toNat special
  simp only [Float.Model.UnpackedFloat.unpackExponent, BitVec.toNat_cast,
    BitVec.extractLsb_toNat, UInt32.toNat_toBitVec, Nat.shiftRight_eq_div_pow] at exponent
  change pattern.toNat / exponentStep % 256 = 255 at exponent
  rw [readBits, exponent, if_pos rfl] at finite
  split_ifs at finite

/-- A short magnitude below infinity is read back from the number of its bit pattern. -/
theorem read_signed_encode (short : IsShort units) (in_range : units.log2 < 277) :
    read (signed false (encode units)) = .finite false units := by
  have pattern : (UInt32.ofNat (encode units)).toNat = encode units :=
    UInt32.toNat_ofNat_of_lt' (encode_lt units)
  have finite : readBits (UInt32.ofNat (encode units)).toNat = .finite false units := by
    rw [pattern]
    exact readBits_encode short in_range
  rw [read, signed, if_neg Bool.false_ne_true, toBits_ofBits finite]
  exact finite

end Waterfall.Binary
