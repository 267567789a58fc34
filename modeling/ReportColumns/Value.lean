import ReportColumns.Calendar.Text
import ReportColumns.Decimal.Shortest
import ReportColumns.NumberFormat.Amount
/-!
Raw values of a report and their default texts, which are shown whenever no format applies.
-/

namespace ReportColumns

inductive Value where
  | empty
  | number (x : Float)
  | integer (n : Int64)
  | text (s : String)
  | boolean (b : Bool)
  | dateTime (moment : DateTime)
  deriving DecidableEq, Repr

namespace Value

def isFormattable : Value → Bool
  | .number _ | .integer _ | .dateTime _ => true
  | .empty | .text _ | .boolean _ => false

def amount? : Value → Option Amount
  | .number x => some (.float x)
  | .integer n => some (.integer n.toInt)
  | .empty | .text _ | .boolean _ | .dateTime _ => none

def toFloat? (value : Value) : Option Float := value.amount?.map Amount.toFloat

def defaultText : Value → String
  | .empty => ""
  | .number x => Decimal.floatText x
  | .integer n => Decimal.intText n.toInt
  | .text s => s
  | .boolean b => if b then "True" else "False"
  | .dateTime moment => moment.defaultText

end Value

end ReportColumns
