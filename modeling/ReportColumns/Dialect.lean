import ReportColumns.DatePattern.Shorthand
import ReportColumns.DatePattern.Tokens
import ReportColumns.Log
/-!
Native formats in the chart dialect and in the spreadsheet dialect.

Numeric formats go through a closed table of tokens. Date formats are expanded for the locale, and in
the chart dialect their tokens become directives. Text is not formatted.
-/

namespace ReportColumns

inductive Classification where
  | numeric
  | text
  | dateTime
  | enumerated
  deriving DecidableEq, Repr

instance : Inhabited Classification := ⟨.text⟩

structure NumericEquivalent where
  native : String
  chart : String
  spreadsheet : String
  deriving DecidableEq, Repr

def numericEquivalents : List NumericEquivalent :=
  [⟨"0", ".0f", "0"⟩,
    ⟨"N0", ",.0f", "#,##0"⟩,
    ⟨"D0", ",.0f", "#,##0"⟩,
    ⟨"N1", ",.1f", "#,##0.0"⟩,
    ⟨"D1", ",.1f", "#,##0.0"⟩,
    ⟨"N2", ",.2f", "#,##0.00"⟩,
    ⟨"D2", ",.2f", "#,##0.00"⟩,
    ⟨"N3", ",.3f", "#,##0.000"⟩,
    ⟨"D3", ",.3f", "#,##0.000"⟩,
    ⟨"N4", ",.4f", "#,##0.0000"⟩,
    ⟨"D4", ",.4f", "#,##0.0000"⟩,
    ⟨"P0", ",.0%", "0%"⟩,
    ⟨"P1", ",.1%", "0.0%"⟩,
    ⟨"P2", ",.2%", "0.00%"⟩,
    ⟨"P3", ",.3%", "0.000%"⟩,
    ⟨"P4", ",.4%", "0.0000%"⟩,
    ⟨"C0", "$,.0f", "$ #,##0"⟩,
    ⟨"C1", "$,.1f", "$ #,##0.0"⟩,
    ⟨"C2", "$,.2f", "$ #,##0.00"⟩,
    ⟨"C3", "$,.3f", "$ #,##0.000"⟩,
    ⟨"C4", "$,.4f", "$ #,##0.0000"⟩]

def numericEquivalent? (format : String) : Option NumericEquivalent :=
  numericEquivalents.find? (·.native == format)

def genericChartFormat : String := "g"

def chartDateFormat (format : String) (locale : Locale) : String :=
  String.ofList <| replaceSlashes locale.dateSeparator.toList <|
    chartDirectives (expandShorthand locale format.toList)

/-- A native format in the chart dialect. A numeric format without an equivalent is logged. -/
def chartFormat (format : String) (classification : Classification) (locale : Locale) :
    Logged String :=
  match classification with
  | .numeric =>
    match numericEquivalent? format with
    | some equivalent => pure equivalent.chart
    | none => do
      .log .debug .format s!"no chart equivalent for numeric format '{format}'"
      return genericChartFormat
  | .dateTime => pure (chartDateFormat format locale)
  | .text | .enumerated => pure genericChartFormat

/-- A native format in the spreadsheet dialect. A format without an equivalent stands for itself. -/
def spreadsheetFormat (format : String) (classification : Classification) (locale : Locale) :
    String :=
  match classification with
  | .numeric =>
    match numericEquivalent? format with
    | some equivalent => equivalent.spreadsheet
    | none => format
  | .dateTime => String.ofList (expandShorthand locale format.toList)
  | .text | .enumerated => format

structure DialectFormats where
  native : String
  chart : String
  spreadsheet : String
  deriving DecidableEq, Repr

def dialectFormats (format : String) (classification : Classification) (locale : Locale) :
    Logged DialectFormats := do
  let chart ← chartFormat format classification locale
  return ⟨format, chart, spreadsheetFormat format classification locale⟩

end ReportColumns
