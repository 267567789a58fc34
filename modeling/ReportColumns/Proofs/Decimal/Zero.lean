import ReportColumns.Proofs.Decimal.Numeral
/-!
Zero is shown alike as a floating point number and as an integer, whether or not the integer stays
exact: scaling and rounding keep the floating point zero.
-/

namespace ReportColumns.Decimal

theorem fixedCoefficient_zero (exponent : Int) (places : Nat) :
    fixedCoefficient 0 exponent places = 0 := by
  unfold fixedCoefficient binaryNumerator
  rw [Nat.zero_mul, Nat.zero_mul]
  exact roundQuotient_mul .toEven _ 0 (binaryDenominator_pos _)

theorem ofPlaces_zero (places : Nat) : Numeral.ofPlaces false 0 places = .ofInt 0 places := by
  unfold Numeral.ofPlaces Numeral.ofInt
  rw [Nat.zero_div, Nat.zero_mod]
  by_cases none_shown : places = 0
  · rw [none_shown]
    rfl
  · rw [if_neg none_shown, paddedDigits_zero (by omega)]
    rfl

theorem fixedNumeral_zero (places : Nat) : fixedNumeral 0.0 places = .ofInt 0 places := by
  have read : Binary.ofFloat 0.0 = .finite false 0 (-1074) := by decide +kernel
  unfold fixedNumeral
  rw [read, ← ofPlaces_zero]
  dsimp only
  rw [fixedCoefficient_zero]

theorem roundToPlaces_zero (places : Nat) : (roundToPlaces 0.0 places == 0.0) = true := by
  have scales : ∀ scale : Fin 16, (roundToPlaces 0.0 scale == 0.0) = true := by decide +kernel
  -- More than fifteen places are not respected.
  have same : roundToPlaces 0.0 places = roundToPlaces 0.0 (min places 15) := by
    simp only [roundToPlaces, Nat.min_assoc, Nat.min_self]
  rw [same]
  exact scales ⟨min places 15, by omega⟩

end ReportColumns.Decimal

namespace ReportColumns.Amount

open Decimal

theorem scaledFloat_zero {amount : Amount} (zero : amount.toFloat = 0.0) (percents thousands : Nat) :
    amount.scaledFloat percents thousands = 0.0 := by
  have kept : (0.0 : Float) * 100.0 = 0.0 ∧ (0.0 : Float) / 1000.0 = 0.0 := by decide +kernel
  have multiplied : Nat.repeat (· * 100.0) percents amount.toFloat = 0.0 := by
    induction percents with
    | zero => exact zero
    | succ less ih => rw [Nat.repeat, ih, kept.1]
  rw [scaledFloat, multiplied]
  induction thousands with
  | zero => rfl
  | succ less ih => rw [Nat.repeat, ih, kept.2]

theorem roundedNumeral_zero (places : Nat) : roundedNumeral 0.0 places = .ofInt 0 places := by
  unfold roundedNumeral
  dsimp only
  rw [roundToPlaces_zero, if_pos rfl, fixedNumeral_zero]

theorem scaledNumeral_zero (percents thousands places : Nat) :
    (float 0.0).scaledNumeral percents thousands places =
      (integer 0).scaledNumeral percents thousands places := by
  have whole : (integer 0).toFloat = 0.0 := by decide +kernel
  unfold scaledNumeral
  rw [scaledFloat_zero rfl, scaledFloat_zero whole]
  simp only [exactScaled?, Int.zero_mul]
  by_cases divides : thousands = 0
  · rw [if_pos ⟨divides, by decide⟩]
    exact roundedNumeral_zero places
  · rw [if_neg fun both => divides both.1]

end ReportColumns.Amount
