import ReportColumns.Proofs.Decimal.Whole
import ReportColumns.Proofs.Decimal.Normal
/-!
Integers and their quotients as floating-point numbers. Main statements: an integer below the fifty-third
power of two is held exactly, and the quotient of two of them that are not zero is a normal number with the
sign of the quotient.
-/

namespace ReportColumns.Decimal

open Float.Model Float.Model.UnpackedFloat

variable {n d : Nat} {k : Int}

def scaled (n : Nat) : Nat := n * 2 ^ (52 - n.log2)

theorem log2_lt (positive : 0 < n) (fits : n < 2 ^ 53) : n.log2 < 53 :=
  (Nat.log2_lt positive.ne').mpr fits

theorem scaled_normal (positive : 0 < n) (fits : n < 2 ^ 53) : Normal (scaled n) (n.log2 - 52) := by
  have bits := log2_lt positive fits
  obtain ⟨from_below, from_above⟩ := (Nat.log2_eq_iff positive.ne').mp rfl
  have low : n.log2 + (52 - n.log2) = 52 := by omega
  have high : n.log2 + 1 + (52 - n.log2) = 53 := by omega
  constructor
  · have lower := Nat.mul_le_mul_right (2 ^ (52 - n.log2)) from_below
    rwa [← Nat.pow_add, low] at lower
  · have upper := Nat.mul_lt_mul_of_pos_right from_above (Nat.two_pow_pos (52 - n.log2))
    rwa [← Nat.pow_add, high] at upper
  · omega
  · omega

theorem round_integer (positive : 0 < n) (fits : n < 2 ^ 53) (sign : Sign) :
    UnpackedFloat.round .binary64 sign n 0 =
      .finite sign (scaled n) (n.log2 - 52) (scaled_normal positive fits).positive := by
  have bits := log2_lt positive fits
  have target : Format.binary64.targetExponent (totalExponent n 0) = n.log2 - 52 := by
    rw [targetExponent_eq, totalExponent]
    omega
  have decreased : decreaseExponent n 0 (n.log2 - 52) = (scaled n, (n.log2 : Int) - 52) := by
    have amount : ((0 : Int) - (n.log2 - 52)).toNat = 52 - n.log2 := by omega
    have reached : (0 : Int) - (52 - n.log2 : Nat) = n.log2 - 52 := by omega
    unfold decreaseExponent
    dsimp only
    rw [amount, reached, Nat.shiftLeft_eq, scaled]
  have rounded := roundWithAccuracy_zeros (scaled_normal positive fits) 0 sign
  rw [Nat.pow_zero, Nat.mul_one, Int.natCast_zero, Int.sub_zero] at rounded
  unfold UnpackedFloat.round
  rw [target]
  dsimp only
  rw [decreased]
  exact rounded

theorem toFloat_eq (positive : 0 < n) (fits : n < 2 ^ 53) :
    n.toUInt64.toFloat = (scaled_normal positive fits).float .positive := by
  have held : n.toUInt64.toNat = n :=
    UInt64.toNat_ofNat_of_lt' (Nat.lt_trans fits (by decide))
  have compared : compare (n : Int) 0 = .gt := Int.compare_eq_gt.mpr (Int.natCast_pos.mpr positive)
  have read : UnpackedFloat.ofUInt64 .binary64 n.toUInt64 =
      UnpackedFloat.round .binary64 .positive n 0 := by
    unfold UnpackedFloat.ofUInt64 UnpackedFloat.ofNat UnpackedFloat.ofInt UnpackedFloat.normalize
    rw [held, compared]
    rfl
  rw [round_integer positive fits] at read
  exact congrArg (fun unpacked => Float.ofModel (Float.Model.pack unpacked)) read

theorem one_normal : Normal (2 ^ 52) (-52) := ⟨by decide, by decide, by decide, by decide⟩

theorem first_power_of_ten : Float.exactlyRepresentablePowersOfTen[0] = one_normal.float .positive := by
  decide +kernel

theorem mul_one_float {mantissa : Nat} {exponent : Int} (normal : Normal mantissa exponent) :
    normal.float .positive * one_normal.float .positive = normal.float .positive := by
  have product := roundWithAccuracy_zeros normal 52 .positive
  change Float.ofModel (Float.Model.pack (UnpackedFloat.mul .binary64
    (normal.float .positive).toModel.unpack (one_normal.float .positive).toModel.unpack)) = _
  rw [unpack_float, unpack_float]
  exact congrArg (fun unpacked => Float.ofModel (Float.Model.pack unpacked)) product

theorem ofNat_eq (positive : 0 < n) (fits : n < 2 ^ 53) :
    Float.ofNat n = (scaled_normal positive fits).float .positive := by
  have fast : n < 2 ^ 53 ∧ 0 ≤ 22 := ⟨fits, by decide⟩
  rw [← mul_one_float, ← toFloat_eq positive fits, ← first_power_of_ten]
  exact dif_pos fast

def signOf : Int → Sign
  | .ofNat _ => .positive
  | .negSucc _ => .negative

theorem neg_float {mantissa : Nat} {exponent : Int} (normal : Normal mantissa exponent) :
    Float.neg (normal.float .positive) = normal.float .negative := by
  change Float.ofModel (Float.Model.pack (normal.float .positive).toModel.unpack.neg) = _
  rw [unpack_float]
  rfl

theorem ofInt_eq (given : 0 < k.natAbs) (fits : k.natAbs < 2 ^ 53) :
    Float.ofInt k = (scaled_normal given fits).float (signOf k) := by
  cases k with
  | ofNat n => exact ofNat_eq given fits
  | negSucc less =>
    change Float.neg (Float.ofNat (Int.negSucc less).natAbs) = _
    rw [ofNat_eq given fits, neg_float]
    rfl

theorem sign_mul_natAbs (k : Int) :
    (if (signOf k == .negative) = true then -1 else 1) * (k.natAbs : ℚ) = k := by
  cases k with
  | ofNat n => exact one_mul _
  | negSucc less =>
    change -1 * ((less + 1 : ℕ) : ℚ) = _
    rw [neg_one_mul, Int.cast_negSucc]

theorem ofInt_value (fits : k.natAbs < 2 ^ 53) :
    (Binary.ofFloat (Float.ofInt k)).value? = some (k : ℚ) := by
  rcases Nat.eq_zero_or_pos k.natAbs with zero | given
  · have nothing : k = 0 := Int.natAbs_eq_zero.mp zero
    subst nothing
    have read : Binary.ofFloat (Float.ofInt 0) = .finite false 0 (-1074) := by decide +kernel
    rw [read]
    simp [Binary.value?]
  · have bits := log2_lt given fits
    have exponent : (k.natAbs.log2 : ℤ) - 52 = -((52 - k.natAbs.log2 : ℕ) : ℤ) := by omega
    have size : (scaled k.natAbs : ℚ) * 2 ^ ((k.natAbs.log2 : ℤ) - 52) = k.natAbs := by
      rw [exponent, scaled, zpow_neg, zpow_natCast]
      push_cast
      exact mul_inv_cancel_right₀ (pow_ne_zero _ two_ne_zero) _
    rw [ofInt_eq given fits, ofFloat_float, Binary.value?, size, sign_mul_natAbs]

theorem divCore_normal {m m' : Nat} {e e' : Int} (above : Normal m e) (below : Normal m' e')
    (least : -1021 ≤ e - e') :
    divCore .binary64 m e m' e' =
      (m * 2 ^ 53 / m', e - e' - 53, accuracyOfFraction (m * 2 ^ 53 % m') m') := by
  have target : Format.binary64.targetExponent (totalExponent m e - totalExponent m' e') =
      e - e' - 53 := by
    rw [targetExponent_eq, totalExponent, totalExponent, above.log2_eq, below.log2_eq]
    omega
  have smaller : min (e - e') (e - e' - 53) = e - e' - 53 := by omega
  have amount : (e - e' - (e - e' - 53)).toNat = 53 := by omega
  unfold divCore
  rw [target, smaller]
  dsimp only
  rw [amount, Nat.shiftLeft_eq]

theorem quotient_bounds {m m' : Nat} {e e' : Int} (above : Normal m e) (below : Normal m' e') :
    2 ^ 52 ≤ m * 2 ^ 53 / m' ∧ m * 2 ^ 53 / m' < 2 ^ 54 := by
  have leading := above.leading
  have fits := above.fits
  have leading' := below.leading
  have fits' := below.fits
  constructor
  · apply (Nat.le_div_iff_mul_le below.positive).mpr
    omega
  · apply (Nat.div_lt_iff_lt_mul below.positive).mpr
    omega

theorem div_float {m m' : Nat} {e e' : Int} (above : Normal m e) (below : Normal m' e')
    (least : -1021 ≤ e - e') (greatest : e - e' ≤ 1022) (sign sign' : Sign) :
    ∃ mantissa exponent, ∃ normal : Normal mantissa exponent,
      above.float sign / below.float sign' = normal.float (sign / sign') := by
  obtain ⟨long, short⟩ := quotient_bounds above below
  obtain ⟨mantissa, exponent, normal, rounded⟩ := roundWithAccuracy_normal long short
    (by omega : -1074 ≤ e - e' - 53) (by omega) (sign / sign')
    (accuracyOfFraction (m * 2 ^ 53 % m') m')
  refine ⟨mantissa, exponent, normal, ?_⟩
  change Float.ofModel (Float.Model.pack (UnpackedFloat.div .binary64
    (above.float sign).toModel.unpack (below.float sign').toModel.unpack)) = _
  rw [unpack_float, unpack_float, UnpackedFloat.div, divCore_normal above below least]
  exact congrArg (fun unpacked => Float.ofModel (Float.Model.pack unpacked)) rounded

/-- The quotient of an integer that is not zero and a positive number is a normal number with its sign. -/
theorem ofInt_div_ofNat (given : k ≠ 0) (fits : k.natAbs < 2 ^ 53) (positive : 0 < d)
    (fits' : d < 2 ^ 53) :
    ∃ mantissa exponent, ∃ normal : Normal mantissa exponent,
      Float.ofInt k / Float.ofNat d = normal.float (signOf k) := by
  have above : 0 < k.natAbs := Int.natAbs_pos.mpr given
  have bits := log2_lt above fits
  have bits' := log2_lt positive fits'
  rw [ofInt_eq above fits, ofNat_eq positive fits']
  obtain ⟨mantissa, exponent, normal, quotient⟩ := div_float (scaled_normal above fits)
    (scaled_normal positive fits') (by omega) (by omega) (signOf k) .positive
  have kept : signOf k / .positive = signOf k := by cases k <;> rfl
  rw [kept] at quotient
  exact ⟨mantissa, exponent, normal, quotient⟩

theorem unpack_zero : (0 : Float).toModel.unpack = .zero .positive := by
  have packed : (0 : Float) = ⟨Float.Model.pack (.zero .positive)⟩ := by decide +kernel
  rw [packed]
  exact unpack_packedZero

theorem float_lt_zero {mantissa : Nat} {exponent : Int} (normal : Normal mantissa exponent)
    (sign : Sign) : normal.float sign < 0 ↔ sign = .negative := by
  have compared : normal.float sign < 0 ↔
      UnpackedFloat.lt (normal.float sign).toModel.unpack (0 : Float).toModel.unpack = true :=
    decide_eq_true_iff
  rw [compared, unpack_zero, unpack_float]
  cases sign <;> simp [UnpackedFloat.lt, UnpackedFloat.compare]

end ReportColumns.Decimal
