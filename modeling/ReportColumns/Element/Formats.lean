import ReportColumns.Display
import ReportColumns.Element.Basic
/-!
The native format in effect for an element, its form in other dialects, and the display of values
under it.
-/

namespace ReportColumns.Element

def fallbackFormat : String := "0"

def catalogFormat (e : Element) : String := (e.entry.map (·.format)).getD ""

/-- The format before the fallback. The selector of the values' kind decides whether the catalog's
format is meant; otherwise free text counts when there is any. -/
def chosenFormat (e : Element) : String :=
  if e.isNumeric && e.numericPreset == .default then e.catalogFormat
  else if e.isNumeric && !e.format.isEmpty then e.format
  else if e.isDateTime && e.datePreset == .default then e.catalogFormat
  else if e.isDateTime && !e.format.isEmpty then e.format
  else if e.isText && !e.format.isEmpty then e.format
  else e.catalogFormat

def effectiveFormat (e : Element) : String :=
  if e.chosenFormat.isEmpty then fallbackFormat else e.chosenFormat

def chartFormat (e : Element) (locale : Locale) : Logged String :=
  ReportColumns.chartFormat e.effectiveFormat e.formatClassification locale

def spreadsheetFormat (e : Element) (locale : Locale) : String :=
  ReportColumns.spreadsheetFormat e.effectiveFormat e.formatClassification locale

def dialectFormats (e : Element) (locale : Locale) : Logged DialectFormats :=
  ReportColumns.dialectFormats e.effectiveFormat e.formatClassification locale

def displayValue (e : Element) (value : Value) (locale : Locale) : Logged String :=
  if value.isFormattable then formatValueOrDefault value e.effectiveFormat locale
  else pure value.defaultText

end ReportColumns.Element
