import ReportColumns.Decimal.Fixed
/-!
The numbers that a format shows. An integer stays exact in every format that does not divide it; only
when a format divides, or the scaled integer no longer fits 128 bits, is it shown through its nearest
floating point number.
-/

namespace ReportColumns

open Decimal

inductive Amount where
  | float (x : Float)
  | integer (n : Int)
  deriving Repr

namespace Amount

def toFloat : Amount → Float
  | .float x => x
  | .integer n => Float.ofInt n

def isZero : Amount → Bool
  | .float x => x == 0.0
  | .integer n => n == 0

def isNegative : Amount → Bool
  | .float x => x < 0.0
  | .integer n => n < 0

def hasFraction : Amount → Bool
  | .float x => (Binary.ofFloat x).hasFraction
  | .integer _ => false

def abs : Amount → Amount
  | .float x => .float x.abs
  | .integer n => .integer n.natAbs

def roundsNegative (amount : Amount) (places : Nat) : Bool :=
  match amount with
  | .float x => roundToPlaces x places < 0.0
  | .integer n => n < 0

def fitsExactly (n : Int) : Bool :=
  -(Nat.pow 2 127 : Nat) ≤ n && n < (Nat.pow 2 127 : Nat)

/-- An integer multiplied by 100 for each percent sign, as long as it stays exact. -/
def exactScaled? (amount : Amount) (percents thousands : Nat) : Option Int :=
  match amount with
  | .float _ => none
  | .integer n =>
    let scaled := n * (Nat.pow 100 percents : Nat)
    if thousands = 0 ∧ fitsExactly scaled then some scaled else none

/-- The floating point value multiplied by 100 for each percent sign and then divided by 1000 for
each scaling comma, one step at a time. -/
def scaledFloat (amount : Amount) (percents thousands : Nat) : Float :=
  Nat.repeat (· / 1000.0) thousands (Nat.repeat (· * 100.0) percents amount.toFloat)

/-- The numeral of a number rounded to a count of places. What rounds to zero has no sign. -/
def roundedNumeral (x : Float) (places : Nat) : Numeral :=
  let rounded := roundToPlaces x places
  fixedNumeral (if rounded == 0.0 then 0.0 else rounded) places

def scaledNumeral (amount : Amount) (percents thousands places : Nat) : Numeral :=
  match amount.exactScaled? percents thousands with
  | some n => .ofInt n places
  | none => roundedNumeral (amount.scaledFloat percents thousands) places

end Amount

end ReportColumns
