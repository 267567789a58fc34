/-!
Rounding of a quotient of natural numbers to the nearest natural number. Only an exact half leaves a
choice, and the caller makes it.
-/

namespace ReportColumns.Decimal

inductive Tie where
  | toEven
  | upward
  deriving DecidableEq, Repr

def Tie.resolve (tie : Tie) (floor : Nat) : Nat :=
  match tie with
  | .toEven => floor + floor % 2
  | .upward => floor + 1

def roundQuotient (tie : Tie) (numerator denominator : Nat) : Nat :=
  let floor := numerator / denominator
  let rest := numerator % denominator
  if 2 * rest < denominator then floor
  else if denominator < 2 * rest then floor + 1
  else tie.resolve floor

theorem roundQuotient_mul (tie : Tie) (denominator value : Nat) (positive : 0 < denominator) :
    roundQuotient tie (denominator * value) denominator = value := by
  simp [roundQuotient, Nat.mul_div_cancel_left value positive, positive]

end ReportColumns.Decimal
