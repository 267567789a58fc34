import Mathlib
import ReportColumns.Decimal.Binary
/-!
Normal floating-point numbers.

A normal number has a mantissa of fifty-three bits with the leading one set. Main statements: a mantissa of
fifty-three or fifty-four bits is rounded to a normal number, rounding leaves a normal number as it is, and
packing one into its bit fields and reading the fields gives it back.
-/

namespace ReportColumns.Decimal

open Float.Model Float.Model.UnpackedFloat

/-- A mantissa with its leading bit set and an exponent that a normal number can have. -/
structure Normal (mantissa : Nat) (exponent : Int) : Prop where
  leading : 2 ^ 52 ≤ mantissa
  fits : mantissa < 2 ^ 53
  least : -1074 ≤ exponent
  greatest : exponent ≤ 971

variable {mantissa : Nat} {exponent : Int} {sign : Sign}

theorem Normal.positive (normal : Normal mantissa exponent) : 0 < mantissa :=
  Nat.lt_of_lt_of_le (by decide) normal.leading

theorem log2_eq {width : Nat} (least : 2 ^ width ≤ mantissa) (fits : mantissa < 2 ^ (width + 1)) :
    mantissa.log2 = width := by
  have given : mantissa ≠ 0 := by
    rintro rfl
    exact absurd (Nat.two_pow_pos width) (Nat.not_lt.mpr least)
  exact (Nat.log2_eq_iff given).mpr ⟨least, fits⟩

theorem Normal.log2_eq (normal : Normal mantissa exponent) : mantissa.log2 = 52 :=
  Decimal.log2_eq normal.leading normal.fits

theorem targetExponent_eq (total : Int) :
    Format.binary64.targetExponent total = max (total - 53) (-1074) := by
  have least : Format.binary64.minExponent = -1074 := by decide
  rw [Format.targetExponent, least]
  rfl

def Normal.float (normal : Normal mantissa exponent) (sign : Sign) : Float :=
  ⟨Float.Model.pack (.finite sign mantissa exponent normal.positive)⟩

theorem shift_zeros (mantissa count : Nat) :
    (⟨mantissa * 2 ^ count, false, false⟩ : ExtendedMantissa) >>> count = ⟨mantissa, false, false⟩ := by
  induction count generalizing mantissa with
  | zero => simp [HShiftRight.hShiftRight, Nat.repeat]
  | succ count ih =>
    have split : mantissa * 2 ^ (count + 1) = mantissa * 2 * 2 ^ count := by
      rw [Nat.pow_succ, Nat.mul_assoc, Nat.mul_comm 2]
    rw [split]
    have earlier := ih (mantissa * 2)
    change ExtendedMantissa.shiftRightOne
      ((⟨mantissa * 2 * 2 ^ count, false, false⟩ : ExtendedMantissa) >>> count) = _
    rw [earlier]
    simp [ExtendedMantissa.shiftRightOne]

theorem shiftToTargetExponent_zeros (normal : Normal mantissa exponent) (count : Nat) :
    shiftToTargetExponent .binary64 (mantissa * 2 ^ count) (exponent - count) .exact =
      (⟨mantissa, false, false⟩, exponent) := by
  have size : (mantissa * 2 ^ count).log2 = 52 + count := by
    apply log2_eq
    · rw [Nat.pow_add]
      exact Nat.mul_le_mul_right _ normal.leading
    · rw [Nat.add_right_comm, Nat.pow_add]
      exact Nat.mul_lt_mul_of_pos_right normal.fits (Nat.two_pow_pos count)
  have target : Format.binary64.targetExponent
      (totalExponent (mantissa * 2 ^ count) (exponent - count)) = exponent := by
    have least := normal.least
    rw [targetExponent_eq, totalExponent, size]
    omega
  have amount : (exponent - (exponent - count)).toNat = count := by omega
  have back : exponent - count + (count : Int) = exponent := by omega
  unfold shiftToTargetExponent
  rw [target, shiftToExponent, amount, back]
  exact congrArg (·, exponent) (shift_zeros mantissa count)

theorem roundWithAccuracy_zeros (normal : Normal mantissa exponent) (count : Nat) (sign : Sign) :
    roundWithAccuracy .binary64 sign (mantissa * 2 ^ count) (exponent - count) .exact =
      .finite sign mantissa exponent normal.positive := by
  have again : shiftToTargetExponent .binary64 mantissa exponent .exact =
      (⟨mantissa, false, false⟩, exponent) := by
    simpa using shiftToTargetExponent_zeros normal 0
  have rounded : (⟨mantissa, false, false⟩ : ExtendedMantissa).roundedMantissa = mantissa := rfl
  unfold roundWithAccuracy
  rw [shiftToTargetExponent_zeros normal count]
  dsimp only
  rw [rounded, again]
  exact dif_neg (Nat.ne_of_gt normal.positive)

theorem shiftRight_mantissa (extended : ExtendedMantissa) (count : Nat) :
    (extended >>> count).mantissa = extended.mantissa / 2 ^ count := by
  induction count with
  | zero => simp [HShiftRight.hShiftRight, Nat.repeat]
  | succ count ih =>
    change (ExtendedMantissa.shiftRightOne (extended >>> count)).mantissa = _
    rw [ExtendedMantissa.shiftRightOne, ih, Nat.div_div_eq_div_mul, ← Nat.pow_succ]

theorem roundedMantissa_bounds (extended : ExtendedMantissa) :
    extended.mantissa ≤ extended.roundedMantissa ∧
      extended.roundedMantissa ≤ extended.mantissa + 1 := by
  obtain ⟨mantissa, round, sticky⟩ := extended
  unfold ExtendedMantissa.roundedMantissa
  cases round <;> cases sticky <;>
    simp only [ExtendedMantissa.accuracy, Accuracy.roundToNearestEven] <;> omega

/-- A rounded mantissa of fifty-three bits, or the power of two next to them, ends as a normal number. -/
theorem finish_normal (least : 2 ^ 52 ≤ mantissa) (fits : mantissa ≤ 2 ^ 53) (low : -1074 ≤ exponent)
    (high : exponent ≤ 970) :
    ∃ m e, Normal m e ∧ ∃ extended : ExtendedMantissa, extended.mantissa = m ∧
      shiftToTargetExponent .binary64 mantissa exponent .exact = (extended, e) := by
  rcases Nat.lt_or_eq_of_le fits with inside | carried
  · refine ⟨mantissa, exponent, ⟨least, inside, low, by omega⟩, ⟨mantissa, false, false⟩, rfl, ?_⟩
    simpa using shiftToTargetExponent_zeros ⟨least, inside, low, by omega⟩ 0
  · have normal : Normal (2 ^ 52) (exponent + 1) :=
      ⟨Nat.le_refl _, by decide, by omega, by omega⟩
    refine ⟨2 ^ 52, exponent + 1, normal, ⟨2 ^ 52, false, false⟩, rfl, ?_⟩
    have shifted := shiftToTargetExponent_zeros normal 1
    have power : mantissa = 2 ^ 52 * 2 ^ 1 := carried
    rwa [← power, Int.natCast_one, Int.add_sub_cancel] at shifted

theorem roundWithAccuracy_normal (least : 2 ^ 52 ≤ mantissa) (fits : mantissa < 2 ^ 54)
    (low : -1074 ≤ exponent) (high : exponent ≤ 969) (sign : Sign) (accuracy : Accuracy) :
    ∃ m e, ∃ normal : Normal m e, roundWithAccuracy .binary64 sign mantissa exponent accuracy =
      .finite sign m e normal.positive := by
  -- The first shift leaves fifty-three bits.
  obtain ⟨count, small, size⟩ : ∃ count, count ≤ 1 ∧ mantissa.log2 = 52 + count := by
    by_cases short : mantissa < 2 ^ 53
    · exact ⟨0, by decide, log2_eq least short⟩
    · exact ⟨1, by decide, log2_eq (Nat.not_lt.mp short) fits⟩
  have given : mantissa ≠ 0 := by omega
  obtain ⟨from_below, from_above⟩ := (Nat.log2_eq_iff given).mp size
  have target : Format.binary64.targetExponent (totalExponent mantissa exponent) = exponent + count := by
    rw [targetExponent_eq, totalExponent, size]
    omega
  have amount : (exponent + count - exponent).toNat = count := by omega
  let extended := ExtendedMantissa.ofMantissaAndAccuracy mantissa accuracy >>> count
  have first : shiftToTargetExponent .binary64 mantissa exponent accuracy =
      (extended, exponent + count) := by
    unfold shiftToTargetExponent
    rw [target, shiftToExponent, amount]
  have held : extended.mantissa = mantissa / 2 ^ count := by
    rw [shiftRight_mantissa]
    cases accuracy with
    | exact => rfl
    | inexact relative => cases relative <;> rfl
  -- Rounding adds at most one, and the second shift takes care of a carry.
  obtain ⟨kept, rounded⟩ := roundedMantissa_bounds extended
  have lower : 2 ^ 52 ≤ extended.mantissa := by
    rw [held]
    exact (Nat.le_div_iff_mul_le (Nat.two_pow_pos count)).mpr (by rwa [← Nat.pow_add])
  have upper : extended.mantissa < 2 ^ 53 := by
    have bits : 52 + count + 1 = count + 53 := by omega
    rw [held]
    apply Nat.div_lt_of_lt_mul
    rwa [← Nat.pow_add, ← bits]
  obtain ⟨m, e, normal, final, rfl, second⟩ := finish_normal (Nat.le_trans lower kept)
    (Nat.le_trans rounded upper) (by omega : -1074 ≤ exponent + count) (by omega)
  refine ⟨_, e, normal, ?_⟩
  unfold roundWithAccuracy
  rw [first]
  dsimp only
  rw [second]
  exact dif_neg (Nat.ne_of_gt normal.positive)

section Fields

variable (spec : Float.Model.Format)

theorem toNat_append {high low : Nat} (x : BitVec high) (y : BitVec low) :
    (x ++ y).toNat = x.toNat * 2 ^ low + y.toNat := by
  rw [BitVec.toNat_append, ← Nat.shiftLeft_add_eq_or_of_lt y.isLt, Nat.shiftLeft_eq]

theorem finite_congr {m : Nat} {e : Int} {given : 0 < m} {positive : 0 < mantissa} (mantissas : m = mantissa)
    (exponents : e = exponent) :
    UnpackedFloat.finite sign m e given = .finite sign mantissa exponent positive := by
  cases mantissas
  cases exponents
  rfl

theorem toNat_packComponents (sign : Sign) (field : BitVec spec.exponentBits)
    (fraction : BitVec spec.mantissaBitsWithoutImplicit) :
    (packComponents spec sign field fraction).toNat =
      (sign.toBitVec.toNat * 2 ^ spec.exponentBits + field.toNat) *
        2 ^ spec.mantissaBitsWithoutImplicit + fraction.toNat := by
  rw [packComponents, toNat_append, toNat_append]

theorem unpack_packComponents (sign : Sign) {field : BitVec spec.exponentBits}
    (fraction : BitVec spec.mantissaBitsWithoutImplicit) (not_ones : field ≠ -1#_)
    (not_zeros : field ≠ 0#_) :
    UnpackedFloat.unpack spec (packComponents spec sign field fraction) =
      .finite sign (1#1 ++ fraction).toNat
        (field.toNat - (spec.exponentBias + spec.mantissaBitsWithoutImplicit)) (by simp) := by
  unfold UnpackedFloat.unpack
  simp only [unpackExponent_packComponents, unpackMantissa_packComponents,
    unpackSign_packComponents, Sign.ofBitVec_toBitVec, if_neg not_ones, if_neg not_zeros]

end Fields

/-- The bit fields of a normal number. The leading bit of the mantissa has no place of its own. -/
theorem pack_normal (normal : Normal mantissa exponent) (sign : Sign) :
    pack .binary64 (.finite sign mantissa exponent normal.positive) =
      packComponents .binary64 sign (BitVec.ofNat 11 (exponent + 1075).toNat)
        (BitVec.ofNat 52 mantissa) := by
  have greatest := normal.greatest
  have bias : exponent + Format.binary64.exponentBias + Format.binary64.mantissaBitsWithoutImplicit =
      exponent + 1075 := by
    have offset : Format.binary64.exponentBias = 1023 := by decide
    rw [offset]
    exact Int.add_assoc exponent 1023 52
  have in_range : ¬ 2 ^ Format.binary64.exponentBits ≤ (exponent + 1075).toNat + 1 := by
    change ¬ 2048 ≤ _
    omega
  have leading : mantissa.log2 + 1 = Format.binary64.mantissaBits := by
    rw [normal.log2_eq]
    decide
  rw [UnpackedFloat.pack, bias]
  dsimp only
  rw [if_neg in_range, if_pos leading]

theorem exponent_field (normal : Normal mantissa exponent) :
    (BitVec.ofNat 11 (exponent + 1075).toNat).toNat = (exponent + 1075).toNat := by
  have greatest := normal.greatest
  rw [BitVec.toNat_ofNat]
  exact Nat.mod_eq_of_lt (by omega)

theorem fraction_field (normal : Normal mantissa exponent) :
    (BitVec.ofNat 52 mantissa).toNat = mantissa - 2 ^ 52 := by
  have least := normal.leading
  have fits := normal.fits
  rw [BitVec.toNat_ofNat]
  omega

theorem unpack_float (normal : Normal mantissa exponent) (sign : Sign) :
    (normal.float sign).toModel.unpack = .finite sign mantissa exponent normal.positive := by
  have least := normal.least
  have greatest := normal.greatest
  have field := exponent_field normal
  have not_ones : BitVec.ofNat 11 (exponent + 1075).toNat ≠ -1#_ := by
    intro same
    have value : (BitVec.ofNat 11 (exponent + 1075).toNat).toNat = 2047 := congrArg BitVec.toNat same
    omega
  have not_zeros : BitVec.ofNat 11 (exponent + 1075).toNat ≠ 0#_ := by
    intro same
    have value : (BitVec.ofNat 11 (exponent + 1075).toNat).toNat = 0 := congrArg BitVec.toNat same
    omega
  have whole : (1#1 ++ BitVec.ofNat 52 mantissa).toNat = mantissa := by
    rw [toNat_append, fraction_field normal]
    exact Nat.add_sub_of_le normal.leading
  have back : ((BitVec.ofNat 11 (exponent + 1075).toNat).toNat : Int) -
      (Format.binary64.exponentBias + 52) = exponent := by
    have offset : Format.binary64.exponentBias = 1023 := by decide
    rw [offset, field]
    omega
  have read := unpack_packComponents .binary64 sign (BitVec.ofNat 52 mantissa) not_ones not_zeros
  rw [← pack_normal normal] at read
  exact read.trans (finite_congr whole back)

theorem toBits_float (normal : Normal mantissa exponent) (sign : Sign) :
    (normal.float sign).toBits.toNat =
      (sign.toBitVec.toNat * 2 ^ 11 + (exponent + 1075).toNat) * 2 ^ 52 + (mantissa - 2 ^ 52) := by
  have fields := toNat_packComponents .binary64 sign (BitVec.ofNat 11 (exponent + 1075).toNat)
    (BitVec.ofNat 52 mantissa)
  rw [← pack_normal normal] at fields
  rw [← exponent_field normal, ← fraction_field normal]
  exact fields

theorem ofFloat_of_fields {x : Float} {sign field fraction : Nat} (positive : 0 < field)
    (finite : field < 2047) (inside : fraction < 2 ^ 52)
    (bits : x.toBits.toNat = (sign * 2 ^ 11 + field) * 2 ^ 52 + fraction) :
    Binary.ofFloat x = .finite (sign == 1) (2 ^ 52 + fraction) (field - 1075) := by
  have first : x.toBits.toNat / 2 ^ 63 = sign := by omega
  have middle : x.toBits.toNat / 2 ^ 52 % 2 ^ 11 = field := by omega
  have last : x.toBits.toNat % 2 ^ 52 = fraction := by omega
  unfold Binary.ofFloat
  simp only [Nat.pow_eq, first, middle, last]
  rw [if_neg (Nat.ne_of_lt finite), if_neg (Nat.ne_of_gt positive)]

theorem ofFloat_float (normal : Normal mantissa exponent) (sign : Sign) :
    Binary.ofFloat (normal.float sign) = .finite (sign == .negative) mantissa exponent := by
  have leading := normal.leading
  have fits := normal.fits
  have least := normal.least
  have greatest := normal.greatest
  have back : ((exponent + 1075).toNat : Int) - 1075 = exponent := by omega
  have read := ofFloat_of_fields (by omega) (by omega) (by omega) (toBits_float normal sign)
  rw [back, Nat.add_sub_of_le leading] at read
  cases sign <;> exact read

end ReportColumns.Decimal
