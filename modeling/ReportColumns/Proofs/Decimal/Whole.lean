import Mathlib.Algebra.Order.Field.Power
import Mathlib.Data.Rat.Cast.Order
import ReportColumns.Decimal.Binary
/-!
Whole numbers among the binary ones: those whose rational value is an integer.
-/

namespace ReportColumns.Decimal

def Binary.value? : Binary → Option ℚ
  | .finite negative mantissa exponent =>
    some ((if negative then -1 else 1) * ((mantissa : ℚ) * 2 ^ exponent))
  | .infinite _ => none
  | .notANumber => none

def Binary.IsWhole (b : Binary) : Prop := ∃ n : ℤ, b.value? = some (n : ℚ)

theorem value_eq_quotient (mantissa : Nat) (exponent : Int) :
    (mantissa : ℚ) * 2 ^ exponent =
      (binaryNumerator mantissa exponent : ℚ) / (binaryDenominator exponent : ℚ) := by
  have split : exponent = (exponent.toNat : ℤ) - ((-exponent).toNat : ℤ) := by omega
  calc (mantissa : ℚ) * 2 ^ exponent
      = mantissa * (2 ^ (exponent.toNat : ℤ) / 2 ^ ((-exponent).toNat : ℤ)) := by
        rw [← zpow_sub₀ two_ne_zero, ← split]
    _ = binaryNumerator mantissa exponent / binaryDenominator exponent := by
        rw [zpow_natCast, zpow_natCast, ← mul_div_assoc]
        simp [binaryNumerator, binaryDenominator, Nat.pow_eq]

theorem quotient_whole_iff {numerator denominator : Nat} (positive : 0 < denominator) :
    (∃ n : ℤ, (numerator : ℚ) / denominator = n) ↔ numerator % denominator = 0 := by
  have given : (denominator : ℚ) ≠ 0 := Nat.cast_ne_zero.mpr positive.ne'
  constructor
  · rintro ⟨n, quotient⟩
    have product : (numerator : ℤ) = n * denominator := by
      exact_mod_cast (div_eq_iff given).mp quotient
    have divides : (denominator : ℤ) ∣ numerator := ⟨n, by rw [product, mul_comm]⟩
    exact Nat.mod_eq_zero_of_dvd (Int.natCast_dvd_natCast.mp divides)
  · intro none_left
    obtain ⟨n, product⟩ := Nat.dvd_of_mod_eq_zero none_left
    refine ⟨n, (div_eq_iff given).mpr ?_⟩
    rw [product, mul_comm]
    push_cast
    rfl

theorem numerator_mod_denominator (mantissa : Nat) (exponent : Int) :
    binaryNumerator mantissa exponent % binaryDenominator exponent =
      mantissa % binaryDenominator exponent := by
  unfold binaryNumerator binaryDenominator
  rcases Int.le_total 0 exponent with high | low
  · have none : (-exponent).toNat = 0 := by omega
    simp [none, Nat.mod_one]
  · have none : exponent.toNat = 0 := by omega
    simp [none]

theorem isWhole_finite_iff {negative : Bool} {mantissa : Nat} {exponent : Int} :
    (Binary.finite negative mantissa exponent).IsWhole ↔
      mantissa % binaryDenominator exponent = 0 := by
  have size : (∃ n : ℤ, (mantissa : ℚ) * 2 ^ exponent = n) ↔
      mantissa % binaryDenominator exponent = 0 := by
    rw [value_eq_quotient, ← numerator_mod_denominator]
    exact quotient_whole_iff (binaryDenominator_pos exponent)
  rw [← size]
  simp only [Binary.IsWhole, Binary.value?, Option.some.injEq]
  -- The sign decides nothing: the negative of an integer is one.
  cases negative with
  | false => simp
  | true =>
    constructor
    · rintro ⟨n, value⟩
      exact ⟨-n, by rw [Int.cast_neg, ← value]; simp⟩
    · rintro ⟨n, value⟩
      exact ⟨-n, by rw [Int.cast_neg, ← value]; simp⟩

theorem hasFraction_iff (b : Binary) : b.hasFraction = true ↔ ¬ b.IsWhole := by
  cases b with
  | finite negative mantissa exponent =>
    rw [isWhole_finite_iff, Binary.hasFraction, bne_iff_ne]
  | infinite negative => simp [Binary.hasFraction, Binary.IsWhole, Binary.value?]
  | notANumber => simp [Binary.hasFraction, Binary.IsWhole, Binary.value?]

end ReportColumns.Decimal
