import ReportColumns.Decimal.Shortest
/-!
JSON values and their text.

An object is a list of members in their written order, so that repeated names stay visible. A string
written with an unpaired surrogate escape is well-formed but denotes no text. A number keeps the digits
it was written with.

Configurations are saved and loaded by a JSON library. Reading, writing and the forms of records follow what
it documents. Of numbers that is: an integer has no fraction and no exponent; a floating-point number is
written with the fewest digits that read back, is read as the nearest one, and is an error when it is too
large; infinities and the non-number are written as null.
-/

namespace ReportColumns

open Decimal

structure JsonNumber where
  negative : Bool
  whole : List Char
  fraction : Option (List Char)
  exponent : Option Int
  deriving DecidableEq, Repr

inductive Json where
  | null
  | bool (b : Bool)
  | number (n : JsonNumber)
  | string (text : Option String)
  | array (items : List Json)
  | object (members : List (Option String × Json))
  deriving Repr, Inhabited

namespace JsonNumber

def ofInt (n : Int) : JsonNumber := ⟨n < 0, digits n.natAbs, none, none⟩

def ofNat (n : Nat) : JsonNumber := ofInt n

def isWhole (n : JsonNumber) : Bool := n.fraction.isNone && n.exponent.isNone

/-- The integer that a number is written as. A negative zero is no integer. -/
def toInt? (n : JsonNumber) : Option Int :=
  if n.isWhole then
    let size := ofDigits n.whole
    if n.negative then (if size = 0 then none else some (-(size : Int))) else some size
  else none

/-- The floating point number nearest to a written number, unless it is too large. Exponents far
beyond the floating point range are decided without computing the power of ten. -/
def toFloat? (n : JsonNumber) : Option Float :=
  let fraction := n.fraction.getD []
  let coefficient := ofDigits (n.whole ++ fraction)
  let exponent : Int := n.exponent.getD 0 - fraction.length
  let top : Int := (digits coefficient).length + exponent
  let size :=
    if coefficient = 0 ∨ top < -400 then 0.0
    else if 400 < top then 1.0 / 0.0
    else Float.ofScientific (coefficient * Nat.pow 10 exponent.toNat) true (-exponent).toNat
  if size < 1.0 / 0.0 then some (if n.negative then -size else size) else none

/-- A finite magnitude with the shortest digits that read back. Between `1e-5` and `1e16` they are
written in full, with at least one digit after the point, and otherwise with an exponent. -/
def ofMagnitude (negative : Bool) (d : Scaled) : JsonNumber :=
  let ds := digits d.coefficient
  let point : Int := ds.length + d.exponent
  if d.coefficient = 0 then ⟨negative, ['0'], some ['0'], none⟩
  else if -5 < point ∧ point ≤ 16 then
    let n := Numeral.ofScaled negative d.coefficient d.exponent
    ⟨negative, n.whole, some (if n.fraction.isEmpty then ['0'] else n.fraction), none⟩
  else ⟨negative, ds.take 1, if ds.length = 1 then none else some (ds.drop 1), some (point - 1)⟩

end JsonNumber

namespace Json

def ofString (s : String) : Json := .string (some s)

def ofInt (n : Int) : Json := .number (.ofInt n)

def ofNat (n : Nat) : Json := .number (.ofNat n)

def ofFloat (x : Float) : Json :=
  match Binary.ofFloat x with
  | .finite negative mantissa exponent =>
    .number (.ofMagnitude negative (shortest .toEven mantissa exponent))
  | .infinite _ => .null
  | .notANumber => .null

def ofMembers (members : List (String × Json)) : Json :=
  .object (members.map fun member => (some member.1, member.2))

end Json

end ReportColumns
