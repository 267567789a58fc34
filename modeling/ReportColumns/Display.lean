import ReportColumns.DatePattern.Render
import ReportColumns.Log
import ReportColumns.NumberFormat.Render
import ReportColumns.Value
/-!
The text of a raw value under a native format and a locale.
-/

namespace ReportColumns

def formatValue (value : Value) (format : String) (locale : Locale) : Except FormatError String :=
  match value with
  | .empty => .ok ""
  | .number x => formatAmount (.float x) format locale
  | .integer n => formatAmount (.integer n.toInt) format locale
  | .dateTime moment => formatDateTime moment format locale
  | .text _ | .boolean _ => .ok value.defaultText

/-- The text of a value under a format, or its default text when the format is rejected. The
rejection is logged. -/
def formatValueOrDefault (value : Value) (format : String) (locale : Locale) : Logged String :=
  match formatValue value format locale with
  | .ok text => pure text
  | .error rejection => do
    .log .debug .format s!"{rejection.message}, using raw value"
    return value.defaultText

end ReportColumns
