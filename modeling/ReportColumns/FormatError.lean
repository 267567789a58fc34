/-!
Why a native format is rejected. A cause carries the format, or the pattern that it stands for. The last
two are named for other layers and given by no formatting here.
-/

namespace ReportColumns

inductive FormatError where
  | unsupportedSpecifier (format : String)
  | precisionOutOfRange (format : String)
  | integralOnly (format : String)
  | kindMismatch (format kind : String)
  | dateRender (pattern : String)
  deriving DecidableEq, Repr

def FormatError.message : FormatError → String
  | .unsupportedSpecifier format => s!"Unsupported standard format specifier: {format}"
  | .precisionOutOfRange format =>
    s!"Precision out of range in format '{format}' (expected 0-99)"
  | .integralOnly format => s!"Format '{format}' is only valid for integral values"
  | .kindMismatch format kind => s!"Format '{format}' cannot be applied to a {kind} value"
  | .dateRender pattern => s!"Date rendering failed for pattern: {pattern}"

end ReportColumns
