import ReportColumns.Decimal.Binary
import ReportColumns.Decimal.Numeral
/-!
The shortest decimal that reads back as a given binary number.

The reals that round to a binary number form an interval, with its ends exactly when the mantissa is
even. For one, two, … seventeen digits the two neighbours of the number on that decimal grid are
tried. The first grid with a neighbour inside the interval wins, and of two neighbours inside it the
nearer one. An exact tie between them is left to the caller.
-/

namespace ReportColumns.Decimal

structure Scaled where
  coefficient : Nat
  exponent : Int
  deriving DecidableEq, Repr

def magnitude (numerator denominator : Nat) : Int :=
  let guess : Int := (digits numerator).length - (digits denominator).length
  if numerator * Nat.pow 10 (-guess).toNat < denominator * Nat.pow 10 guess.toNat then guess
  else guess + 1

/-- The decimal on the grid `10 ^ exponent` that reads back as `mantissa * 2 ^ binaryExponent`.
Lengths are counted in quarters of the binary unit, so that both ends of the interval are whole. -/
def gridDecimal? (tie : Tie) (mantissa : Nat) (binaryExponent exponent : Int) : Option Scaled :=
  let quarter := binaryNumerator 1 binaryExponent * Nat.pow 10 (-exponent).toNat
  let value := 4 * mantissa * quarter
  let step := 4 * binaryDenominator binaryExponent * Nat.pow 10 exponent.toNat
  let below := if mantissa = Nat.pow 2 52 ∧ -1074 < binaryExponent then quarter else 2 * quarter
  let above := 2 * quarter
  let inside (candidate : Nat) : Bool :=
    let point := candidate * step
    if mantissa % 2 = 0 then value - below ≤ point && point ≤ value + above
    else value - below < point && point < value + above
  let floor := value / step
  match inside floor, inside (floor + 1) with
  | true, true => some ⟨roundQuotient tie value step, exponent⟩
  | true, false => some ⟨floor, exponent⟩
  | false, true => some ⟨floor + 1, exponent⟩
  | false, false => none

def Scaled.normalize : Nat → Scaled → Scaled
  | 0, d => d
  | fuel + 1, d =>
    if d.coefficient ≠ 0 ∧ d.coefficient % 10 = 0 then
      Scaled.normalize fuel ⟨d.coefficient / 10, d.exponent + 1⟩
    else d

/-- The shortest decimal of `mantissa * 2 ^ exponent`. Seventeen digits always suffice, so the grid
with eighteen is never reached. -/
def shortest (tie : Tie) (mantissa : Nat) (exponent : Int) : Scaled :=
  if mantissa = 0 then ⟨0, 0⟩
  else
    let top := magnitude (binaryNumerator mantissa exponent) (binaryDenominator exponent)
    let grids := (List.range 18).map fun (count : Nat) => top - (count + 1)
    let found := (grids.findSome? (gridDecimal? tie mantissa exponent)).getD ⟨0, 0⟩
    found.normalize 18

def plainNumeral (x : Float) : Numeral :=
  match Binary.ofFloat x with
  | .finite negative mantissa exponent =>
    let d := shortest .upward mantissa exponent
    .ofScaled negative d.coefficient d.exponent
  | .infinite negative => .infinity negative
  | .notANumber => .notANumber

def floatText (x : Float) : String := (plainNumeral x).text

end ReportColumns.Decimal
