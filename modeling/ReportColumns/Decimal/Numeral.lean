/-!
The written digits of a number: its sign, the digits before the decimal point and the digits after
it. A number that is not finite has its name in place of the digits before the point.
-/

namespace ReportColumns.Decimal

structure Numeral where
  negative : Bool
  whole : List Char
  fraction : List Char
  deriving DecidableEq, Repr

def digits (n : Nat) : List Char := Nat.toDigits 10 n

def ofDigits (ds : List Char) : Nat := Nat.ofDigitChars 10 ds 0

theorem ofDigits_digits (n : Nat) : ofDigits (digits n) = n :=
  Nat.ofDigitChars_toDigits (by decide) (by decide)

def paddedDigits (width n : Nat) : List Char := (digits n).leftpad width '0'

def Numeral.ofPlaces (negative : Bool) (coefficient places : Nat) : Numeral where
  negative := negative
  whole := digits (coefficient / Nat.pow 10 places)
  fraction := if places = 0 then [] else paddedDigits places (coefficient % Nat.pow 10 places)

def Numeral.ofInt (n : Int) (places : Nat) : Numeral where
  negative := n < 0
  whole := digits n.natAbs
  fraction := List.replicate places '0'

def Numeral.ofScaled (negative : Bool) (coefficient : Nat) (exponent : Int) : Numeral :=
  if 0 ≤ exponent then ⟨negative, digits coefficient ++ List.replicate exponent.toNat '0', []⟩
  else Numeral.ofPlaces negative coefficient (-exponent).toNat

def Numeral.infinity (negative : Bool) : Numeral := ⟨negative, ['i', 'n', 'f'], []⟩

def Numeral.notANumber : Numeral := ⟨false, ['N', 'a', 'N'], []⟩

def Numeral.chars (n : Numeral) : List Char :=
  (if n.negative then ['-'] else []) ++ n.whole ++
    (if n.fraction.isEmpty then [] else '.' :: n.fraction)

def Numeral.text (n : Numeral) : String := String.ofList n.chars

def intText (n : Int) : String := (Numeral.ofInt n 0).text

end ReportColumns.Decimal
