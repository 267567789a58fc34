import ReportColumns.Log
import ReportColumns.Sheet.Basic
import ReportColumns.Sheet.StoredText
import ReportColumns.Text.LowerCase
/-!
Exporting sheets to a workbook, and what the workbook then holds.

Sheets are written in order, each one header first, then row by row and with the widths of its columns at
the end, and the first fault stops the export. What is taken of a sheet is for the library that makes the
file to say, so an export is given its rules.

What is said here of that library is what it documents:

* `SheetRules.workbook`: the name of a sheet has 1 to 31 characters, none of `[ ] : * ? / \`, and no
  apostrophe at either end. A sheet has 1,048,576 rows and 16,384 columns, and neither a cell nor a width can
  be set outside. A text has at most 32,767 characters.
* `CellWrite.store?`: an empty text is left out, or is a blank cell if it has a format. What is not a number
  is held as the text `#NUM!`.
* `finishWorkbook`: no two sheets have one name, the case of letters ignored, which is looked at when the
  workbook is saved. A workbook without sheets gets an empty one that is called `Sheet1`.
-/

namespace ReportColumns

open Text

inductive WriteRefusal where
  | sheetNameBlank
  | sheetNameTooLong
  | sheetNameCharacter
  | sheetNameApostrophe
  | sheetNameReused
  | textTooLong
  | outsideGrid
  | cannotCreateFile
  deriving DecidableEq, Repr

inductive ExportError where
  | sheet (cause : SheetError)
  | refused (cause : WriteRefusal)
  deriving DecidableEq, Repr

inductive StoredContent where
  | number (x : Float)
  | text (s : String)
  | boolean (b : Bool)
  | blank
  deriving DecidableEq, Repr

structure StoredCell where
  row : Nat
  column : Nat
  content : StoredContent
  numberFormat : Option String
  bold : Bool
  deriving DecidableEq, Repr

structure StoredSheet where
  name : String
  widths : List Nat
  cells : List StoredCell
  deriving DecidableEq, Repr

abbrev Workbook := List StoredSheet

def longestSheetName : Nat := 31

def longestText : Nat := 32767

def gridRows : Nat := 1048576

def gridColumns : Nat := 16384

def forbiddenInSheetName : List Char := ['*', '?', ':', '[', ']', '\\', '/']

def apostrophe : Char := '\x27'

def checkSheetName (name : String) : Except WriteRefusal Unit :=
  let chars := name.toList
  if chars.isEmpty then .error .sheetNameBlank
  else if longestSheetName < chars.length then .error .sheetNameTooLong
  else if chars.any forbiddenInSheetName.contains then .error .sheetNameCharacter
  else if chars.head? = some apostrophe ∨ chars.getLast? = some apostrophe then
    .error .sheetNameApostrophe
  else .ok ()

def CellWrite.check (write : CellWrite) : Except WriteRefusal Unit :=
  if gridRows ≤ write.row.toNat ∨ gridColumns ≤ write.column.toNat then .error .outsideGrid
  else
    match write.content with
    | .text s => if longestText < s.length then .error .textTooLong else .ok ()
    | .number _ | .boolean _ => .ok ()

def checkWidth (column : UInt16) : Except WriteRefusal Unit :=
  if gridColumns ≤ column.toNat then .error .outsideGrid else .ok ()

/-- An export on its way. A fault or a refusal stops it, and what was logged before stays. -/
abbrev Export := ExceptT ExportError Logged

namespace Export

def checked (check : Except WriteRefusal Unit) : Export Unit :=
  MonadExcept.ofExcept (check.mapError .refused)

/-- What an export comes to, without what it logged. -/
def result (action : Export α) : Except ExportError α := action.run.value

end Export

/-- What a file format takes of a sheet: its name, each write of a cell, and a width for a column. -/
structure SheetRules where
  name : String → Except WriteRefusal Unit
  cell : CellWrite → Except WriteRefusal Unit
  width : UInt16 → Except WriteRefusal Unit

namespace SheetRules

def workbook : SheetRules := ⟨checkSheetName, CellWrite.check, checkWidth⟩

def takeName (rules : SheetRules) (name : String) : Export Unit := .checked (rules.name name)

def takeCell (rules : SheetRules) (write : CellWrite) : Export Unit := .checked (rules.cell write)

def takeWidth (rules : SheetRules) (column : UInt16) : Export Unit := .checked (rules.width column)

end SheetRules

/-- The cell that a write leaves. An empty text leaves one only when it is formatted, and what is not a
number is held as a text without format. -/
def CellWrite.store? (write : CellWrite) : Option StoredCell :=
  let cell (content : StoredContent) : StoredCell :=
    ⟨write.row.toNat, write.column.toNat, content, write.numberFormat, write.bold⟩
  match write.content with
  | .number x =>
    match Decimal.Binary.ofFloat x with
    | .finite _ _ _ | .infinite _ => some (cell (.number x))
    | .notANumber =>
      some ⟨write.row.toNat, write.column.toNat, .text "#NUM!", none, false⟩
  | .text s =>
    if s.isEmpty then
      if write.bold || write.numberFormat.isSome then some (cell .blank) else none
    else some (cell (.text (storedText s)))
  | .boolean b => some (cell (.boolean b))

/-- What was written of a sheet: every write of a cell and every width, in order. -/
structure Worksheet where
  name : String
  writes : List CellWrite
  widths : List (UInt16 × Nat)
  deriving DecidableEq, Repr

def Worksheet.stored (worksheet : Worksheet) : StoredSheet :=
  ⟨worksheet.name, worksheet.widths.map (·.2), worksheet.writes.filterMap CellWrite.store?⟩

namespace ReportSheet

def writeValue (rules : SheetRules) (rowIndex index : Nat) (column : ExportColumn) (value : Value) :
    Export (List CellWrite) := do
  match ← column.cell? value with
  | none => return []
  | some (content, numberFormat) =>
    let write : CellWrite := ⟨rowNumber rowIndex, columnNumber index, content, numberFormat, false⟩
    rules.takeCell write
    return [write]

def writeValues (rules : SheetRules) (rowIndex : Nat) :
    Nat → List (ExportColumn × Value) → Export (List CellWrite)
  | _, [] => return []
  | index, (column, value) :: rest => do
    let here ← writeValue rules rowIndex index column value
    let later ← writeValues rules rowIndex (index + 1) rest
    return here ++ later

/-- Writes the rows from an index on. Each must have one value for each column. -/
def writeRows (rules : SheetRules) (sheet : ReportSheet) :
    Nat → List (List Value) → Export (List CellWrite)
  | _, [] => return []
  | index, row :: rest => do
    if row.length ≠ sheet.columns.length then
      throw (.sheet (.rowWidth index sheet.columns.length row.length))
    let here ← writeValues rules index 0 (sheet.columns.zip row)
    let later ← sheet.writeRows rules (index + 1) rest
    return here ++ later

def write (rules : SheetRules) (sheet : ReportSheet) : Export Worksheet := do
  if sheet.columns.isEmpty then throw (.sheet (.noColumns sheet.name))
  rules.takeName sheet.name
  sheet.headerWrites.forM rules.takeCell
  let cells ← sheet.writeRows rules 0 sheet.rows
  sheet.widths.forM fun width => rules.takeWidth width.1
  return ⟨sheet.name, sheet.headerWrites ++ cells, sheet.widths⟩

end ReportSheet

def buildWorkbook (rules : SheetRules) (sheets : List ReportSheet) : Export Workbook := do
  let worksheets ← sheets.mapM (ReportSheet.write rules)
  return worksheets.map Worksheet.stored

def reusesName (names : List String) : Bool :=
  let folded := names.map fun name => lowerCase name.toList
  folded.eraseDups.length != folded.length

/-- The finished workbook: no name is used twice, and one empty sheet stands in when there is none. -/
def finishWorkbook (workbook : Workbook) : Export Workbook :=
  if reusesName (workbook.map (·.name)) then throw (.refused .sheetNameReused)
  else if workbook.isEmpty then return [⟨"Sheet1", [], []⟩]
  else return workbook

inductive Destination where
  | memory
  | file (path : String)
  /-- A path at which no file can be created. -/
  | unreachable (path : String)
  deriving DecidableEq, Repr

/-- Exports sheets. The workbook is built before the file is created, and its names are compared after
that. A finished file is logged. -/
def exportSheets (rules : SheetRules) (destination : Destination) (sheets : List ReportSheet) :
    Logged (Except ExportError Workbook) :=
  ExceptT.run do
    let workbook ← buildWorkbook rules sheets
    match destination with
    | .memory => finishWorkbook workbook
    | .unreachable _ => throw (.refused .cannotCreateFile)
    | .file path =>
      let finished ← finishWorkbook workbook
      let count := sheets.length
      Logged.log .info .exporting s!"saved {count} sheet(s) to {path}"
      return finished

end ReportColumns
