import ReportColumns.Decimal.Shortest
/-!
Scientific notation: one digit before the point, the remaining digits after it, and a power of ten.
The digits are either the shortest that read back or a fixed count, rounded half to even from the
exact binary value.
-/

namespace ReportColumns.Decimal

structure Scientific where
  numeral : Numeral
  exponent : Int
  deriving DecidableEq, Repr

def Scientific.ofScaled (negative : Bool) (d : Scaled) : Scientific :=
  let ds := digits d.coefficient
  ⟨⟨negative, ds.take 1, ds.drop 1⟩, d.exponent + (ds.length - 1 : Nat)⟩

/-- The positive number `mantissa * 2 ^ exponent` rounded to `count + 1` significant digits. Rounding
up to the next power of ten leaves one digit too many, a zero, which is dropped. -/
def significant (mantissa : Nat) (exponent : Int) (count : Nat) : Scaled :=
  if mantissa = 0 then ⟨0, 0⟩
  else
    let numerator := binaryNumerator mantissa exponent
    let denominator := binaryDenominator exponent
    let unit : Int := magnitude numerator denominator - (count + 1)
    let rounded := roundQuotient .toEven (numerator * Nat.pow 10 (-unit).toNat)
      (denominator * Nat.pow 10 unit.toNat)
    if Nat.pow 10 (count + 1) ≤ rounded then ⟨rounded / 10, unit + 1⟩ else ⟨rounded, unit⟩

def Scientific.ofPlaces (negative : Bool) (mantissa : Nat) (exponent : Int) (places : Nat) :
    Scientific :=
  if mantissa = 0 then ⟨⟨negative, ['0'], List.replicate places '0'⟩, 0⟩
  else .ofScaled negative (significant mantissa exponent places)

def Scaled.toFloat (negative : Bool) (d : Scaled) : Float :=
  let size :=
    Float.ofScientific (d.coefficient * Nat.pow 10 d.exponent.toNat) true (-d.exponent).toNat
  if negative then -size else size

def roundToSignificant (x : Float) (count : Nat) : Float :=
  match Binary.ofFloat x with
  | .finite negative mantissa exponent => (significant mantissa exponent count).toFloat negative
  | .infinite _ => x
  | .notANumber => x

end ReportColumns.Decimal
