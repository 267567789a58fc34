import ReportColumns.Calendar.Serial
import ReportColumns.Log
import ReportColumns.Sheet.Column
/-!
Result tables to be exported, and the cells that they write.

A sheet writes its headers into the first row and every value that is not empty into the row below its
index. Dates are written as serials; where the column is not one of dates they get a date format of
their own. A date without a serial is logged and written as a text.
-/

namespace ReportColumns

inductive SheetError where
  | noColumns (sheet : String)
  | rowWidth (row expected actual : Nat)
  deriving DecidableEq, Repr

def SheetError.message : SheetError → String
  | .noColumns sheet => s!"Sheet '{sheet}' has no columns"
  | .rowWidth row expected actual => s!"Row {row} has {actual} values, expected {expected}"

structure ReportSheet where
  name : String
  columns : List ExportColumn
  rows : List (List Value)
  deriving DecidableEq, Repr

inductive CellContent where
  | number (x : Float)
  | text (s : String)
  | boolean (b : Bool)
  deriving DecidableEq, Repr

/-- One cell that is written. Rows and columns are counted from zero, the header row included, in
numbers as wide as a workbook has for them. -/
structure CellWrite where
  row : UInt32
  column : UInt16
  content : CellContent
  numberFormat : Option String
  bold : Bool
  deriving DecidableEq, Repr

def fallbackDateFormat : String := "yyyy-mm-dd hh:mm:ss"

def ExportColumn.dateFormat (column : ExportColumn) : String :=
  match column.classification with
  | .dateTime => column.format?.getD fallbackDateFormat
  | .numeric | .text | .enumerated => fallbackDateFormat

def ExportColumn.cell? (column : ExportColumn) :
    Value → Logged (Option (CellContent × Option String))
  | .empty => pure none
  | .number x => pure (some (.number x, column.format?))
  | .integer n => pure (some (.number (Float.ofInt n.toInt), column.format?))
  | .text s => pure (some (.text s, none))
  | .boolean b => pure (some (.boolean b, none))
  | .dateTime moment =>
    match moment.serial? with
    | some serial => pure (some (.number serial, some column.dateFormat))
    | none => do
      .log .debug .exporting s!"date {moment.loggedText} out of range, written as text"
      return some (.text moment.defaultText, none)

namespace ReportSheet

def new (name : String) (columns : List ExportColumn) : ReportSheet := ⟨name, columns, []⟩

def ofElements (name : String) (elements : List Element) (locale : Locale)
    (dictionary : Dictionary) : ReportSheet :=
  new name (elements.map fun e => .ofElement e locale dictionary)

/-- Adds a row at the end. It must have one value for each column, and is refused otherwise. -/
def pushRow (row : List Value) : StateM ReportSheet (Except SheetError Unit) := do
  let sheet ← get
  if row.length ≠ sheet.columns.length then
    return .error (.rowWidth sheet.rows.length sheet.columns.length row.length)
  set { sheet with rows := sheet.rows ++ [row] }
  return .ok ()

/-- Adds rows one after the other, whether or not some are refused, and gives the answer to each. -/
def pushRows (rows : List (List Value)) : StateM ReportSheet (List (Except SheetError Unit)) :=
  rows.mapM pushRow

/-- The number of a column in a workbook. It comes round again after 65536 columns. -/
def columnNumber (index : Nat) : UInt16 := UInt16.ofNat index

/-- The number of the row in which the values with an index are written, below the header. -/
def rowNumber (index : Nat) : UInt32 := UInt32.ofNat index + 1

def headerWrites (sheet : ReportSheet) : List CellWrite :=
  sheet.columns.mapIdx fun index column =>
    ⟨0, columnNumber index, .text column.header, none, true⟩

def textWidth : Value → Nat
  | .text s => s.length
  | _ => 0

/-- The width of a column in characters: room for the longest text, within bounds. -/
def columnWidth (sheet : ReportSheet) (index : Nat) (column : ExportColumn) : Nat :=
  let texts := sheet.rows.map fun row => (row[index]?.map textWidth).getD 0
  min 60 (max 8 (texts.foldl max column.header.length + 2))

def widths (sheet : ReportSheet) : List (UInt16 × Nat) :=
  sheet.columns.mapIdx fun index column => (columnNumber index, sheet.columnWidth index column)

end ReportSheet

end ReportColumns
