import ReportColumns.Text.Hexadecimal
/-!
Identifiers of new elements: 128 bits written as thirty-two hexadecimal digits in five groups. Six of
the bits are fixed, so that the text has the form of a random identifier.
-/

namespace ReportColumns

open Text

def identifierOfBits (bits : Nat) : String :=
  let group (count place : Nat) : List Char := hexDigits count (bits / Nat.pow 2 place)
  String.ofList <|
    group 8 90 ++ '-' :: group 4 74 ++ '-' :: '4' :: group 3 62 ++
      '-' :: hexDigit (8 + bits / Nat.pow 2 60 % 4) :: group 3 48 ++ '-' :: group 12 0

def isLowerHex (c : Char) : Bool := c.isDigit || ('a' ≤ c && c ≤ 'f')

def isRandomIdentifier (text : String) : Bool :=
  match text.toList.splitOn '-' with
  | [first, second, third, fourth, fifth] =>
    first.length == 8 && second.length == 4 && third.length == 4 && fourth.length == 4 &&
      fifth.length == 12 && [first, second, third, fourth, fifth].all (·.all isLowerHex) &&
      third.head? == some '4' && fourth.head?.any fun c => ['8', '9', 'a', 'b'].contains c
  | _ => false

end ReportColumns
