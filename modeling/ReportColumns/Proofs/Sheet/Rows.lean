import ReportColumns.Sheet.Basic
/-!
Rows pushed into a sheet. Each push either adds its row at the end or leaves the sheet as it is, and which
of the two depends on the width of the row alone.
-/

namespace ReportColumns

namespace ReportSheet

variable {start sheet : ReportSheet} {row : List Value}

inductive Made : ReportSheet → Prop where
  | new (name : String) (columns : List ExportColumn) : Made (.new name columns)
  | ofElements (name : String) (elements : List Element) (locale : Locale)
      (dictionary : Dictionary) : Made (.ofElements name elements locale dictionary)

theorem Made.rows_eq (made : Made start) : start.rows = [] := by
  cases made with
  | new => rfl
  | ofElements => rfl

def after (start : ReportSheet) (rows : List (List Value)) : ReportSheet :=
  ((pushRows rows).run start).2

theorem pushRow_of_fits (fits : row.length = sheet.columns.length) :
    (pushRow row).run sheet = (.ok (), { sheet with rows := sheet.rows ++ [row] }) := by
  simp only [pushRow, StateT.run_bind, StateT.run_get, pure_bind]
  rw [if_neg (not_not_intro fits)]
  rfl

theorem pushRow_of_differs (differs : row.length ≠ sheet.columns.length) :
    (pushRow row).run sheet =
      (.error (.rowWidth sheet.rows.length sheet.columns.length row.length), sheet) := by
  simp only [pushRow, StateT.run_bind, StateT.run_get, pure_bind]
  rw [if_pos differs]
  rfl

theorem pushRow_ok_iff :
    ((pushRow row).run sheet).1 = .ok () ↔ row.length = sheet.columns.length := by
  by_cases fits : row.length = sheet.columns.length
  · simp [pushRow_of_fits fits, fits]
  · simp [pushRow_of_differs fits, fits]

@[simp] theorem after_nil (start : ReportSheet) : start.after [] = start := rfl

theorem after_cons (start : ReportSheet) (row : List Value) (rows : List (List Value)) :
    start.after (row :: rows) = ((pushRow row).run start).2.after rows := by
  unfold after pushRows
  rw [List.mapM_cons]
  rfl

theorem after_eq (start : ReportSheet) (rows : List (List Value)) :
    start.after rows =
      { start with rows := start.rows ++ rows.filter (·.length = start.columns.length) } := by
  -- The sheet is another one after each push, but its columns are the same.
  induction rows generalizing start with
  | nil => simp
  | cons row rows ih =>
    rw [after_cons]
    by_cases fits : row.length = start.columns.length
    · rw [pushRow_of_fits fits, ih]
      simp [fits]
    · rw [pushRow_of_differs fits, ih]
      simp [fits]

end ReportSheet

end ReportColumns
