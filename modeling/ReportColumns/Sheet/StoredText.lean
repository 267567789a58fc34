import ReportColumns.Text.Hexadecimal
/-!
How a workbook holds a text, as the library that makes the file documents it. The file format has no place
for most control characters and for two code points that are no characters. They are written as an escape:
`_x`, four hexadecimal digits and `_`. An underscore that could be taken for the start of an escape is
written as one too. Lengths and widths are those of the text before that.
-/

namespace ReportColumns

open Text

def escapeMark (code : Nat) : List Char :=
  '_' :: 'x' :: (hexDigits 4 code).map Char.toUpper ++ ['_']

/-- Whether a character stands in a workbook only as an escape. Tabs and line ends are held as they
are. -/
def needsMark (c : Char) : Bool :=
  (c.toNat < 0x20 && c != '\t' && c != '\n') || c.toNat = 0xFFFE || c.toNat = 0xFFFF

/-- Whether a text begins like an escape. What stands in the place of the closing underscore does not
matter, but the place has to be taken. -/
def beginsLikeMark : List Char → Bool
  | '_' :: 'x' :: a :: b :: c :: d :: _ :: _ => [a, b, c, d].all fun digit => (hexValue? digit).isSome
  | _ => false

def storedChars : List Char → List Char
  | [] => []
  | c :: rest =>
    (if needsMark c || beginsLikeMark (c :: rest) then escapeMark c.toNat else [c]) ++ storedChars rest

def storedText (text : String) : String := String.ofList (storedChars text.toList)

end ReportColumns
