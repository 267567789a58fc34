import ReportColumns.Element.Formats
import ReportColumns.Element.Naming
import ReportColumns.Saved.Formatting
/-!
Columns of exported sheets: a header and the spreadsheet format of the values below it.
-/

namespace ReportColumns

structure ExportColumn where
  header : String
  classification : Classification
  /-- The spreadsheet format, or empty for the general one. -/
  spreadsheetFormat : String
  deriving DecidableEq, Repr

namespace ExportColumn

/-- The column of an element. Text has no number format, and enumerated values follow their type. -/
def ofElement (e : Element) (locale : Locale) (dictionary : Dictionary) : ExportColumn where
  header := e.displayNameIn dictionary
  classification := e.formatClassification
  spreadsheetFormat :=
    match e.formatClassification with
    | .numeric | .dateTime => e.spreadsheetFormat locale
    | .text | .enumerated => ""

def fieldNames : List String := ["header", "classification", "spreadsheetFormat"]

instance : JsonForm ExportColumn where
  toJson column := .ofMembers (fieldNames.zip
    [toJson column.header, toJson column.classification, toJson column.spreadsheetFormat])
  ofJson? json := do
    let fields ← json.recordFields? fieldNames
    return ⟨← fields.required 0, ← fields.required 1, ← fields.required 2⟩

def format? (column : ExportColumn) : Option String :=
  if column.spreadsheetFormat.isEmpty then none else some column.spreadsheetFormat

end ExportColumn

end ReportColumns
