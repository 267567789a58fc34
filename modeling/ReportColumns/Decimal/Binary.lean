import ReportColumns.Decimal.Rounding
/-!
What a 64-bit binary floating point number stands for: a signed natural number times a power of two,
an infinity, or no number at all. Every decimal text of a number is computed from this reading in
exact integer arithmetic.
-/

namespace ReportColumns.Decimal

inductive Binary where
  /-- The number `mantissa * 2 ^ exponent`, negated when the sign is set. Both zeros have mantissa 0. -/
  | finite (negative : Bool) (mantissa : Nat) (exponent : Int)
  | infinite (negative : Bool)
  | notANumber
  deriving DecidableEq, Repr

def Binary.ofFloat (x : Float) : Binary :=
  let bits : Nat := x.toBits.toNat
  let negative := bits / Nat.pow 2 63 == 1
  let field : Nat := bits / Nat.pow 2 52 % Nat.pow 2 11
  let fraction : Nat := bits % Nat.pow 2 52
  if field = 2047 then
    if fraction = 0 then .infinite negative else .notANumber
  else if field = 0 then .finite negative fraction (-1074)
  else .finite negative (Nat.pow 2 52 + fraction) ((field : Int) - 1075)

def binaryNumerator (mantissa : Nat) (exponent : Int) : Nat := mantissa * Nat.pow 2 exponent.toNat

def binaryDenominator (exponent : Int) : Nat := Nat.pow 2 (-exponent).toNat

theorem binaryDenominator_pos (exponent : Int) : 0 < binaryDenominator exponent :=
  Nat.pow_pos (by decide)

def Binary.hasFraction : Binary → Bool
  | .finite _ mantissa exponent => mantissa % binaryDenominator exponent != 0
  | .infinite _ => true
  | .notANumber => true

/-- The nearest whole number as a floating point number, halves going away from zero. A number with
no fraction bits, an infinity and the non-number stay as they are. -/
def roundToWhole (x : Float) : Float :=
  match Binary.ofFloat x with
  | .finite negative mantissa exponent =>
    if 0 ≤ exponent then x
    else
      let whole := Float.ofNat (roundQuotient .upward mantissa (binaryDenominator exponent))
      if negative then -whole else whole
  | .infinite _ => x
  | .notANumber => x

/-- A number rounded to a count of decimal places, halves going away from zero. The scaled number is
itself rounded to binary, and at most fifteen places are respected. -/
def roundToPlaces (x : Float) (places : Nat) : Float :=
  let scale := Float.ofNat (Nat.pow 10 (min places 15))
  roundToWhole (x * scale) / scale

end ReportColumns.Decimal
