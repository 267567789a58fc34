import ReportColumns.Decimal.Binary
import ReportColumns.Decimal.Numeral
/-!
The exact value of a binary number written with a fixed count of decimal places. The value is rounded
once, from its exact expansion, and a half goes to the even neighbour.
-/

namespace ReportColumns.Decimal

def fixedCoefficient (mantissa : Nat) (exponent : Int) (places : Nat) : Nat :=
  roundQuotient .toEven (binaryNumerator mantissa exponent * Nat.pow 10 places)
    (binaryDenominator exponent)

def fixedNumeral (x : Float) (places : Nat) : Numeral :=
  match Binary.ofFloat x with
  | .finite negative mantissa exponent =>
    .ofPlaces negative (fixedCoefficient mantissa exponent places) places
  | .infinite negative => .infinity negative
  | .notANumber => .notANumber

end ReportColumns.Decimal
