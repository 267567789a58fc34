import ReportColumns.Calendar.Text
import ReportColumns.DatePattern.Shorthand
import ReportColumns.DatePattern.Tokens
import ReportColumns.FormatError
/-!
Displaying a date-time with a native date format. Names of days and months are English, a slash shows
the date separator of the locale, and every character that is no token shows itself.
-/

namespace ReportColumns

open Decimal

def dayNames : List String :=
  ["Monday", "Tuesday", "Wednesday", "Thursday", "Friday", "Saturday", "Sunday"]

def monthNames : List String :=
  ["January", "February", "March", "April", "May", "June", "July", "August", "September",
    "October", "November", "December"]

def dayName (date : Date) : List Char := (dayNames.getD date.weekday "").toList

def monthName (date : Date) : List Char := (monthNames.getD (date.month - 1) "").toList

def DatePart.chars (locale : Locale) (moment : DateTime) : DatePart → List Char
  | .dayNameFull => dayName moment.date
  | .dayNameShort => (dayName moment.date).take 3
  | .day2 => padded 2 moment.date.day
  | .day1 => digits moment.date.day
  | .monthNameFull => monthName moment.date
  | .monthNameShort => (monthName moment.date).take 3
  | .month2 => padded 2 moment.date.month
  | .month1 => digits moment.date.month
  | .year4 => yearChars moment.date.year
  | .year2 => padded 2 (moment.date.year % 100).toNat
  | .year1 => digits (moment.date.year % 100).toNat
  | .hour24Padded => padded 2 moment.time.hour
  | .hour24 => digits moment.time.hour
  | .hour12Padded => padded 2 moment.time.clockHour
  | .hour12 => digits moment.time.clockHour
  | .minute2 => padded 2 moment.time.minute
  | .minute1 => digits moment.time.minute
  | .second2 => padded 2 moment.time.second
  | .second1 => digits moment.time.second
  | .millisecond => padded 3 moment.time.millisecond
  | .designator =>
    if moment.time.hour < 12 then locale.amDesignator.toList else locale.pmDesignator.toList

def displayChars (locale : Locale) (moment : DateTime) : Segment DatePart → List Char
  | .token part => part.chars locale moment
  | .literal c => if c = '/' then locale.dateSeparator.toList else [c]

def displayPattern (locale : Locale) (moment : DateTime) (pattern : List Char) : List Char :=
  (scan displayTokens pattern).flatMap (displayChars locale moment)

def isUnknownShorthand (format : List Char) : Bool :=
  match format with
  | [letter] => letter.isAlpha && (Shorthand.ofLetter? letter).isNone
  | _ => false

def formatDateTime (moment : DateTime) (format : String) (locale : Locale) :
    Except FormatError String :=
  if isUnknownShorthand format.toList then .error (.unsupportedSpecifier format)
  else
    .ok (String.ofList (displayPattern locale moment (expandShorthand locale format.toList)))

end ReportColumns
