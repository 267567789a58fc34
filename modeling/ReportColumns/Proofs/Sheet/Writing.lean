import ReportColumns.Proofs.Sheet.Export
/-!
What a sheet that was written has written.

Every date has a serial, so a value writes what stands in its cell and logs nothing. Writing stops at the
first fault. A sheet that comes through has written its headers and then its rows, and every row was as
wide as the headers and every write was taken. An exported workbook holds each sheet as it was written.
-/

namespace ReportColumns

open Export

/-- What stands in the cell of a value. -/
def ExportColumn.entry? (column : ExportColumn) : Value → Option (CellContent × Option String)
  | .empty => none
  | .number x => some (.number x, column.format?)
  | .integer n => some (.number (Float.ofInt n.toInt), column.format?)
  | .text s => some (.text s, none)
  | .boolean b => some (.boolean b, none)
  | .dateTime moment => some (.number moment.serial, some column.dateFormat)

/-- No date takes the way of those without a serial. -/
theorem ExportColumn.cell?_eq (column : ExportColumn) (value : Value) :
    column.cell? value = pure (column.entry? value) := by
  cases value with
  | dateTime moment =>
    rw [cell?, moment.serial?_eq]
    rfl
  | empty | number | integer | text | boolean => rfl

namespace ReportSheet

variable {rules : SheetRules} {sheet : ReportSheet} {level : LogLevel}

def valueWrite? (rowIndex index : Nat) (column : ExportColumn) (value : Value) : Option CellWrite :=
  (column.entry? value).map fun cell =>
    ⟨rowNumber rowIndex, columnNumber index, cell.1, cell.2, false⟩

def rowWrites (sheet : ReportSheet) (rowIndex : Nat) (row : List Value) : List CellWrite :=
  ((sheet.columns.zip row).mapIdx fun index pair =>
    valueWrite? rowIndex index pair.1 pair.2).filterMap id

/-- All writes of cells, in the order in which they are issued. -/
def cellWrites (sheet : ReportSheet) : List CellWrite :=
  (sheet.headerWrites :: sheet.rows.mapIdx sheet.rowWrites).flatten

def writeCells (rules : SheetRules) (writes : List CellWrite) : Export (List CellWrite) := do
  writes.forM rules.takeCell
  return writes

theorem writeCells_append (rules : SheetRules) (writes later : List CellWrite) :
    writeCells rules (writes ++ later) = (do
      let here ← writeCells rules writes
      let rest ← writeCells rules later
      return here ++ rest) := by
  simp [writeCells]

theorem writeCells_eq_ok_iff {writes cells : List CellWrite} :
    (writeCells rules writes).result = .ok cells ↔
      (∀ write ∈ writes, rules.cell write = .ok ()) ∧ cells = writes := by
  rw [writeCells, result_bind_eq_ok_iff, ← result_forM_checked_eq_ok_iff]
  constructor
  · rintro ⟨⟨⟩, taken, ⟨⟩⟩
    exact ⟨taken, rfl⟩
  · rintro ⟨taken, rfl⟩
    exact ⟨(), taken, rfl⟩

theorem writeValue_eq (rules : SheetRules) (rowIndex index : Nat) (column : ExportColumn)
    (value : Value) :
    writeValue rules rowIndex index column value =
      writeCells rules (valueWrite? rowIndex index column value).toList := by
  unfold writeValue
  rw [column.cell?_eq, valueWrite?]
  cases column.entry? value with
  | none => rfl
  | some cell => simp [writeCells]

theorem writeValues_eq (rules : SheetRules) (rowIndex index : Nat)
    (pairs : List (ExportColumn × Value)) :
    writeValues rules rowIndex index pairs =
      writeCells rules ((pairs.mapIdx fun i pair =>
        valueWrite? rowIndex (index + i) pair.1 pair.2).filterMap id) := by
  induction pairs generalizing index with
  | nil => rfl
  | cons pair rest ih =>
    have later_index (i : Nat) : index + 1 + i = index + (i + 1) := by omega
    have first_apart (slots : List (Option CellWrite)) :
        ((valueWrite? rowIndex index pair.1 pair.2) :: slots).filterMap id =
          (valueWrite? rowIndex index pair.1 pair.2).toList ++ slots.filterMap id := by
      cases valueWrite? rowIndex index pair.1 pair.2 <;> rfl
    simp only [writeValues, writeValue_eq, ih, later_index, List.mapIdx_cons, Nat.add_zero,
      first_apart, writeCells_append]

theorem writeRow_eq (rules : SheetRules) (sheet : ReportSheet) (rowIndex : Nat) (row : List Value) :
    writeValues rules rowIndex 0 (sheet.columns.zip row) =
      writeCells rules (sheet.rowWrites rowIndex row) := by
  simp only [writeValues_eq, Nat.zero_add, rowWrites]

theorem writeRows_eq_ok_iff {index : Nat} {rows : List (List Value)} {cells : List CellWrite} :
    (sheet.writeRows rules index rows).result = .ok cells ↔
      (∀ row ∈ rows, row.length = sheet.columns.length) ∧
        (∀ write ∈ cells, rules.cell write = .ok ()) ∧
        cells = (rows.mapIdx fun i row => sheet.rowWrites (index + i) row).flatten := by
  -- The index of a row counts from the row the writing begins with.
  induction rows generalizing index cells with
  | nil =>
    rw [writeRows, result_pure, List.mapIdx_nil, List.flatten_nil, Except.ok.injEq]
    constructor
    · rintro rfl
      simp
    · rintro ⟨-, -, none⟩
      exact none.symm
  | cons row rest ih =>
    have later_index (i : Nat) : index + 1 + i = index + (i + 1) := by omega
    rw [writeRows, List.mapIdx_cons, List.flatten_cons, List.forall_mem_cons]
    by_cases fits : row.length = sheet.columns.length
    · rw [if_neg (not_not_intro fits)]
      simp only [writeRow_eq, result_bind_eq_ok_iff, writeCells_eq_ok_iff, ih, later_index,
        Nat.add_zero]
      constructor
      · rintro ⟨_, ⟨here, rfl⟩, _, ⟨widths, taken, rfl⟩, ⟨⟩⟩
        exact ⟨⟨fits, widths⟩, List.forall_mem_append.mpr ⟨here, taken⟩, rfl⟩
      · rintro ⟨⟨-, widths⟩, taken, rfl⟩
        obtain ⟨here, later⟩ := List.forall_mem_append.mp taken
        exact ⟨_, ⟨here, rfl⟩, _, ⟨widths, later, rfl⟩, rfl⟩
    · rw [if_pos fits]
      constructor
      · intro success
        cases success
      · rintro ⟨⟨fits', -⟩, -⟩
        exact absurd fits' fits

/-- Writing a sheet succeeds just when it has columns, its name is taken, every row has one value for each
column, and every write of a cell and every width is taken. -/
theorem write_eq_ok_iff {worksheet : Worksheet} :
    (sheet.write rules).result = .ok worksheet ↔
      sheet.columns ≠ [] ∧ rules.name sheet.name = .ok () ∧
        (∀ row ∈ sheet.rows, row.length = sheet.columns.length) ∧
        (∀ write ∈ sheet.cellWrites, rules.cell write = .ok ()) ∧
        (∀ width ∈ sheet.widths, rules.width width.1 = .ok ()) ∧
        worksheet = ⟨sheet.name, sheet.cellWrites, sheet.widths⟩ := by
  by_cases bare : sheet.columns = []
  · rw [write, if_pos (List.isEmpty_iff.mpr bare)]
    constructor
    · intro success
      cases success
    · rintro ⟨columns, -⟩
      exact absurd bare columns
  · rw [write, if_neg (mt List.isEmpty_iff.mp bare), cellWrites, List.flatten_cons,
      List.forall_mem_append]
    simp only [result_bind_eq_ok_iff, writeRows_eq_ok_iff, Nat.zero_add]
    constructor
    · rintro ⟨⟨⟩, named, ⟨⟩, headed, cells, ⟨widths, taken, rfl⟩, ⟨⟩, given, ⟨⟩⟩
      exact ⟨bare, result_checked_eq_ok_iff.mp named, widths,
        ⟨result_forM_checked_eq_ok_iff.mp headed, taken⟩,
        result_forM_checked_eq_ok_iff.mp given, rfl⟩
    · rintro ⟨-, named, widths, ⟨headed, taken⟩, given, rfl⟩
      exact ⟨(), result_checked_eq_ok_iff.mpr named, (),
        result_forM_checked_eq_ok_iff.mpr headed, _, ⟨widths, taken, rfl⟩, (),
        result_forM_checked_eq_ok_iff.mpr given, rfl⟩

theorem writeCells_logsAt (rules : SheetRules) (writes : List CellWrite) :
    LogsAt level (writeCells rules writes) :=
  logsAt_bind (logsAt_forM fun _ => logsAt_checked _) fun _ => logsAt_pure writes

theorem writeRows_logsAt (rules : SheetRules) (sheet : ReportSheet) (index : Nat)
    (rows : List (List Value)) : LogsAt level (sheet.writeRows rules index rows) := by
  induction rows generalizing index with
  | nil => exact logsAt_pure []
  | cons row rest ih =>
    rw [writeRows]
    split
    · exact logsAt_throw _
    · rw [writeRow_eq]
      exact logsAt_bind (writeCells_logsAt rules _) fun _ =>
        logsAt_bind (ih (index + 1)) fun _ => logsAt_pure _

theorem write_logsAt (rules : SheetRules) (sheet : ReportSheet) :
    LogsAt level (sheet.write rules) := by
  rw [write]
  split
  · exact logsAt_throw _
  · exact logsAt_bind (logsAt_checked _) fun _ =>
      logsAt_bind (logsAt_forM fun _ => logsAt_checked _) fun _ =>
      logsAt_bind (sheet.writeRows_logsAt rules 0 sheet.rows) fun _ =>
      logsAt_bind (logsAt_forM fun _ => logsAt_checked _) fun _ => logsAt_pure _

end ReportSheet

theorem finishWorkbook_logsAt {level : LogLevel} (workbook : Workbook) :
    LogsAt level (finishWorkbook workbook) := by
  unfold finishWorkbook
  split
  · exact logsAt_throw _
  · split
    · exact logsAt_pure _
    · exact logsAt_pure _

theorem exportSheets_lines (rules : SheetRules) (destination : Destination)
    (sheets : List ReportSheet) :
    ∀ line ∈ (exportSheets rules destination sheets).lines, line.level = .info := by
  have built : LogsAt .info (buildWorkbook rules sheets) :=
    logsAt_bind (logsAt_mapM fun sheet => sheet.write_logsAt rules) fun _ => logsAt_pure _
  refine logsAt_bind built fun workbook => ?_
  cases destination with
  | memory => exact finishWorkbook_logsAt workbook
  | unreachable path => exact logsAt_throw _
  | file path =>
    refine logsAt_bind (finishWorkbook_logsAt workbook) fun finished => ?_
    intro line logged
    obtain rfl := List.mem_singleton.mp logged
    rfl

theorem exportSheets_getElem? {rules : SheetRules} {destination : Destination}
    {sheets : List ReportSheet} {workbook : Workbook}
    (exported : (exportSheets rules destination sheets).value = .ok workbook) {i : Nat}
    {sheet : ReportSheet} (present : sheets[i]? = some sheet) :
    ∃ worksheet, (sheet.write rules).result = .ok worksheet ∧
      workbook[i]? = some worksheet.stored := by
  obtain ⟨built, written, saved⟩ := result_bind_eq_ok_iff.mp exported
  have finished : (finishWorkbook built).result = .ok workbook := by
    cases destination with
    | memory => exact saved
    | unreachable path => cases saved
    | file path =>
      obtain ⟨finished, complete, ⟨⟩⟩ := result_bind_eq_ok_iff.mp saved
      exact complete
  obtain ⟨worksheets, each, ⟨⟩⟩ := result_bind_eq_ok_iff.mp written
  obtain ⟨worksheet, here, placed⟩ := result_mapM_getElem? each present
  have stored : (worksheets.map Worksheet.stored)[i]? = some worksheet.stored := by
    rw [List.getElem?_map, placed]
    rfl
  -- The empty sheet that stands in for none is not added here.
  have filled : (worksheets.map Worksheet.stored).isEmpty = false := by
    cases worksheets with
    | nil => cases placed
    | cons first rest => rfl
  rw [finishWorkbook, filled] at finished
  split at finished
  · cases finished
  · cases finished
    exact ⟨worksheet, here, stored⟩

end ReportColumns
