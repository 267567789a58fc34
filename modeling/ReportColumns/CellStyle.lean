import ReportColumns.Text.Blank
import ReportColumns.Value
/-!
Styles of result cells. A specification holds up to three styles between vertical bars: for ordinary
values, for empty and zero values, and for negative values. A style left empty falls back to the first.
-/

namespace ReportColumns

open Text

structure CellStyle where
  styles : List String
  deriving DecidableEq, Repr

namespace CellStyle

/-- Parts beyond the third are ignored, and a blank specification has none at all. -/
def parse (spec : String) : CellStyle :=
  if (trim spec.toList).isEmpty then ⟨[]⟩
  else ⟨((spec.toList.splitOn '|').take 3).map fun part => String.ofList (trim part)⟩

def isEmpty (style : CellStyle) : Bool := style.styles.all String.isEmpty

def ordinary (style : CellStyle) : String := style.styles.getD 0 ""

def zero (style : CellStyle) : String := style.styles.getD 1 ""

def negative (style : CellStyle) : String := style.styles.getD 2 ""

def specific (style : CellStyle) (value : Value) : String :=
  match value with
  | .empty => style.zero
  | .text s => if s.isEmpty then style.zero else ""
  | .number _ | .integer _ =>
    match value.toFloat? with
    | some x => if x == 0.0 then style.zero else if x < 0.0 then style.negative else ""
    | none => ""
  | .boolean _ | .dateTime _ => ""

def styleFor (style : CellStyle) (value : Value) : String :=
  let own := style.specific value
  if own.isEmpty then style.ordinary else own

end CellStyle

end ReportColumns
