import ReportColumns.Decimal.Scientific
import ReportColumns.NumberFormat.Amount
import ReportColumns.NumberFormat.Glyph
/-!
Standard numeric formats: a letter, in either case, and an optional precision of at most two digits.

`N` groups digits, `F` does not, `D` shows integers with a least digit count, `P` shows percentages,
`C` currency, `E` scientific notation and `G` the shortest text. Without a precision `N`, `F`, `P` and
`C` show two decimals and `E` six.
-/

namespace ReportColumns

open Decimal

inductive Specifier where
  | number
  | decimal
  | fixedPoint
  | percent
  | currency
  | exponential
  | general
  deriving DecidableEq, Repr

def Specifier.ofLetter? (letter : Char) : Option Specifier :=
  match letter.toUpper with
  | 'N' => some .number
  | 'D' => some .decimal
  | 'F' => some .fixedPoint
  | 'P' => some .percent
  | 'C' => some .currency
  | 'E' => some .exponential
  | 'G' => some .general
  | _ => none

structure StandardFormat where
  specifier : Specifier
  precision : Option Nat
  /-- Whether the letter was given in lower case. Only the exponent mark shows it. -/
  lowercase : Bool
  deriving DecidableEq, Repr

def decimalGlyphs (amount : Amount) (width : Nat) : List Glyph :=
  let n := amount.scaledNumeral 0 0 0
  signGlyphs n.negative ++ Glyph.ofChars (n.whole.leftpad width '0')

/-- The grouped magnitude beside the currency symbol, in parentheses when it is below zero. -/
def currencyGlyphs (currency : Currency) (amount : Amount) (places : Nat) : List Glyph :=
  let magnitude := numeralGlyphs true (amount.abs.scaledNumeral 0 0 places)
  let symbol := Glyph.ofChars currency.symbol.toList
  let signed :=
    match currency.position with
    | .before => symbol ++ magnitude
    | .after => magnitude ++ symbol
  if amount.roundsNegative places then [.char '('] ++ signed ++ [.char ')'] else signed

def exponentGlyphs (mark : Char) (exponent : Int) (width : Nat) : List Glyph :=
  .char mark :: .char (if exponent < 0 then '-' else '+') ::
    Glyph.ofChars (paddedDigits width exponent.natAbs)

def exponentialGlyphs (x : Float) (places : Nat) (lowercase : Bool) : List Glyph :=
  match Binary.ofFloat x with
  | .finite negative mantissa exponent =>
    let s := Scientific.ofPlaces negative mantissa exponent places
    numeralGlyphs false s.numeral ++ exponentGlyphs (if lowercase then 'e' else 'E') s.exponent 3
  | .infinite negative => numeralGlyphs false (.infinity negative)
  | .notANumber => numeralGlyphs false .notANumber

def needsExponent (x : Float) : Bool := x.abs ≥ 1e15 || x.abs < 1e-5

/-- The shortest text, after rounding to the precision as significant digits when one is given. Very
large and very small magnitudes get an exponent of at least two digits. -/
def generalGlyphs (x : Float) (precision : Option Nat) : List Glyph :=
  let rounded :=
    match precision with
    | some (count + 1) => roundToSignificant x count
    | _ => x
  if rounded == 0.0 then [.char '0']
  else if needsExponent rounded then
    match Binary.ofFloat rounded with
    | .finite negative mantissa exponent =>
      let s := Scientific.ofScaled negative (shortest .upward mantissa exponent)
      numeralGlyphs false s.numeral ++ exponentGlyphs 'E' s.exponent 2
    | .infinite negative => numeralGlyphs false (.infinity negative)
    | .notANumber => numeralGlyphs false .notANumber
  else numeralGlyphs false (plainNumeral rounded)

def StandardFormat.glyphs (format : StandardFormat) (currency : Currency) (amount : Amount) :
    List Glyph :=
  match format.specifier with
  | .number => numeralGlyphs true (amount.scaledNumeral 0 0 (format.precision.getD 2))
  | .fixedPoint => numeralGlyphs false (amount.scaledNumeral 0 0 (format.precision.getD 2))
  | .decimal => decimalGlyphs amount (format.precision.getD 0)
  | .percent =>
    numeralGlyphs true (amount.scaledNumeral 1 0 (format.precision.getD 2)) ++ [.char '%']
  | .currency => currencyGlyphs currency amount (format.precision.getD 2)
  | .exponential => exponentialGlyphs amount.toFloat (format.precision.getD 6) format.lowercase
  | .general =>
    match amount, format.precision with
    | .integer n, none => numeralGlyphs false (.ofInt n 0)
    | .integer n, some 0 => numeralGlyphs false (.ofInt n 0)
    | _, precision => generalGlyphs amount.toFloat precision

end ReportColumns
