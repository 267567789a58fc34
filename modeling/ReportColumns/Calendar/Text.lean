import ReportColumns.Calendar.DateTime
import ReportColumns.Decimal.Numeral
import ReportColumns.Text.Blank
/-!
Written forms of dates and times.

The interchange form is `2024-03-09T14:05:07.042`, as the calendar library documents it. It is written with
no, three, six or nine digits of a second, and with a sign on years outside 0 to 9999. Reading also takes
blanks between the parts and parts without their leading zero. The default form is `03/09/2024 14:05:07`.
-/

namespace ReportColumns

open Decimal Text

def padded (width n : Nat) : List Char := paddedDigits width n

def yearChars (year : Int) : List Char :=
  (if year < 0 then ['-'] else if 9999 < year then ['+'] else []) ++ padded 4 year.natAbs

namespace DateTime

def fractionChars (nanosecond : Nat) : List Char :=
  if nanosecond = 0 then []
  else if nanosecond % 1000000 = 0 then '.' :: padded 3 (nanosecond / 1000000)
  else if nanosecond % 1000 = 0 then '.' :: padded 6 (nanosecond / 1000)
  else '.' :: padded 9 nanosecond

def interchangeText (moment : DateTime) : String :=
  String.ofList <|
    yearChars moment.date.year ++ '-' :: padded 2 moment.date.month ++
      '-' :: padded 2 moment.date.day ++ 'T' :: padded 2 moment.time.hour ++
      ':' :: padded 2 moment.time.minute ++ ':' :: padded 2 moment.time.writtenSecond ++
      fractionChars moment.time.writtenNanosecond

def loggedText (moment : DateTime) : String :=
  moment.interchangeText.map fun c => if c = 'T' then ' ' else c

/-- The default form. A leap second is written as 60. -/
def defaultText (moment : DateTime) : String :=
  String.ofList <|
    padded 2 moment.date.month ++ '/' :: padded 2 moment.date.day ++
      '/' :: yearChars moment.date.year ++ ' ' :: padded 2 moment.time.hour ++
      ':' :: padded 2 moment.time.minute ++ ':' :: padded 2 moment.time.writtenSecond

def readDigits? (most : Nat) (text : List Char) : Option (List Char × List Char) :=
  let ds := (text.take most).takeWhile Char.isDigit
  if ds.isEmpty then none else some (ds, text.drop ds.length)

def readPart? (text : List Char) : Option (Nat × List Char) :=
  (readDigits? 2 (trimStart text)).map fun found => (ofDigits found.1, found.2)

def readYear? (text : List Char) : Option (Int × List Char) :=
  match trimStart text with
  | '-' :: rest => (readDigits? rest.length rest).map fun found => (-(ofDigits found.1 : Int), found.2)
  | '+' :: rest => (readDigits? rest.length rest).map fun found => ((ofDigits found.1 : Int), found.2)
  | rest => (readDigits? 4 rest).map fun found => ((ofDigits found.1 : Int), found.2)

def readMark? (mark : Char) (text : List Char) : Option (List Char) :=
  match trimStart text with
  | c :: rest => if c = mark then some rest else none
  | [] => none

/-- Reads an optional fraction of a second as nanoseconds. Digits after the ninth are skipped. -/
def readFraction? (text : List Char) : Option (Nat × List Char) :=
  match text with
  | '.' :: rest =>
    (readDigits? 9 rest).map fun found =>
      (ofDigits found.1 * Nat.pow 10 (9 - found.1.length), found.2.dropWhile Char.isDigit)
  | rest => some (0, rest)

def ofInterchange? (text : List Char) : Option DateTime := do
  let (year, rest) ← readYear? text
  let (month, rest) ← readPart? (← readMark? '-' rest)
  let (day, rest) ← readPart? (← readMark? '-' rest)
  let (hour, rest) ← readPart? (← readMark? 'T' rest)
  let (minute, rest) ← readPart? (← readMark? ':' rest)
  let (second, rest) ← readPart? (← readMark? ':' rest)
  let (nanosecond, rest) ← readFraction? rest
  guard (trimStart rest).isEmpty
  return ⟨← Date.ofParts? year month day, ← TimeOfDay.ofParts? hour minute second nanosecond⟩

end DateTime

end ReportColumns
