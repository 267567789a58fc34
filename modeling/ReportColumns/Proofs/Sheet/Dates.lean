import ReportColumns.Proofs.Calendar.Serial
import ReportColumns.Proofs.Sheet.Placement
/-!
Dates in exported sheets.

A date without a serial is written as a text, with a line in the log. As every date-time has a serial, this
does not happen: dates before the epoch are written as numbers less than zero.
-/

namespace ReportColumns

open Decimal

namespace DateTime

def epochStart : DateTime := ⟨spreadsheetEpoch, .midnight⟩

variable {moment : DateTime}

theorem serial_sign (moment : DateTime) :
    (moment.serial < 0 ↔ moment.serialMillis < 0) ∧
      ∃ negative mantissa exponent,
        Binary.ofFloat moment.serial = .finite negative mantissa exponent := by
  have fits := moment.serialMillis_natAbs_lt
  unfold serial
  generalize moment.serialMillis = millis at fits
  by_cases zero : millis = 0
  · subst zero
    have read : Binary.ofFloat (Float.ofInt 0 / Float.ofNat millisPerDay) = .finite false 0 (-1074) := by
      decide +kernel
    have not_less : ¬ Float.ofInt 0 / Float.ofNat millisPerDay < 0 := by decide +kernel
    exact ⟨iff_of_false not_less (Int.lt_irrefl 0), _, _, _, read⟩
  · obtain ⟨mantissa, exponent, normal, quotient⟩ :=
      ofInt_div_ofNat zero fits (by decide : 0 < millisPerDay) (by decide)
    have sign : signOf millis = .negative ↔ millis < 0 := by
      cases millis with
      | ofNat n => exact iff_of_false (by rintro ⟨⟩) (Int.not_lt.mpr (Int.natCast_nonneg n))
      | negSucc less => exact iff_of_true rfl (Int.negSucc_lt_zero less)
    rw [quotient, float_lt_zero, sign]
    exact ⟨Iff.rfl, _, _, _, ofFloat_float normal _⟩

theorem serialMillis_neg_iff :
    moment.serialMillis < 0 ↔ moment.nanosSince spreadsheetEpoch.dayNumber ≤ -1000000 := by
  rcases Int.le_total 0 (moment.nanosSince spreadsheetEpoch.dayNumber) with after | before
  · have dropped : 0 ≤ moment.serialMillis := Int.tdiv_nonneg after (by decide)
    omega
  · rw [serialMillis_of_nonpos before]
    omega

theorem epochStart_isWhole : epochStart.IsWhole := ⟨by decide, by decide⟩

theorem before_epochStart_iff (whole : moment.IsWhole) :
    moment.Before epochStart ↔ moment.serialMillis < 0 := by
  have start : epochStart.serialMillis = 0 := by decide
  rw [before_iff_serialMillis_lt whole epochStart_isWhole, start]

end DateTime

/-- What is left of a date in the sheet that is stored. -/
def storedDate (r c : Nat) (column : ExportColumn) (moment : DateTime) : StoredCell :=
  ⟨(ReportSheet.rowNumber r).toNat, (ReportSheet.columnNumber c).toNat, .number moment.serial,
    some column.dateFormat, false⟩

namespace ReportSheet

variable {sheet : ReportSheet} {r c : Nat}

theorem store?_place {write : CellWrite} {cell : StoredCell} (stored : write.store? = some cell) :
    write.place = (cell.row, cell.column) := by
  unfold CellWrite.store? at stored
  cases content : write.content with
  | number x =>
    rw [content] at stored
    dsimp only at stored
    split at stored <;> (cases stored; rfl)
  | text s =>
    rw [content] at stored
    dsimp only at stored
    split at stored
    · split at stored
      · cases stored
        rfl
      · cases stored
    · cases stored
      rfl
  | boolean b =>
    rw [content] at stored
    cases stored
    rfl

theorem store?_date (r c : Nat) (column : ExportColumn) (moment : DateTime) :
    CellWrite.store? ⟨rowNumber r, columnNumber c, .number moment.serial, some column.dateFormat, false⟩ =
      some (storedDate r c column moment) := by
  obtain ⟨-, negative, mantissa, exponent, read⟩ := moment.serial_sign
  rw [CellWrite.store?]
  dsimp only
  rw [read]
  rfl

/-- The date in the place of a value is written and stored there as a number, and in a grid nothing else
is. -/
theorem stored_date {rules : SheetRules} {worksheet : Worksheet} {moment : DateTime}
    (written : (sheet.write rules).result = .ok worksheet)
    (held : sheet.value? r c = some (.dateTime moment)) :
    ∃ column, sheet.columns[c]? = some column ∧
      ⟨rowNumber r, columnNumber c, .number moment.serial, some column.dateFormat, false⟩ ∈
        worksheet.writes ∧
      storedDate r c column moment ∈ worksheet.stored.cells ∧
      (rules.KeepsGrid → sheet.rows.length < gridRows → ∀ cell ∈ worksheet.stored.cells,
        cell.row = r + 1 → cell.column = c → cell = storedDate r c column moment) := by
  obtain ⟨-, -, fit, taken, -, rfl⟩ := write_eq_ok_iff.mp written
  obtain ⟨column, present⟩ := column_of_value fit held
  have issued : (⟨rowNumber r, columnNumber c, .number moment.serial, some column.dateFormat, false⟩ :
      CellWrite) ∈ sheet.cellWrites := valueWrite_mem present held rfl
  refine ⟨column, present, issued, ?_, ?_⟩
  · exact List.mem_filterMap.mpr ⟨_, issued, store?_date r c column moment⟩
  · -- Another cell in this place was left by a write for this place, and there is one such write.
    intro grid room cell among row_here column_here
    obtain ⟨write, issued, stored⟩ := List.mem_filterMap.mp among
    have wide : sheet.columns.length ≤ gridColumns := columns_of_taken grid taken
    obtain ⟨row_place, column_place⟩ := Prod.mk.inj (store?_place stored)
    have called := writeAt?_of_mem wide room issued
    rw [row_place, column_place, row_here, column_here, writeAt?, present, held] at called
    cases called
    exact Option.some.inj (stored.symm.trans (store?_date r c column moment))

end ReportSheet

/-- Every date of every exported sheet is written and stored as a number, its serial, with a date format; that
number is less than zero for a date that lies a millisecond or more before the epoch. The way of dates without a
serial is never taken, and no export logs anything but that it is done. -/
theorem dates_are_written_as_numbers (rules : SheetRules) (destination : Destination)
    (sheets : List ReportSheet) :
    (∀ line ∈ (exportSheets rules destination sheets).lines, line.level = .info) ∧
    ∀ workbook : Workbook, (exportSheets rules destination sheets).value = .ok workbook →
      ∀ (i : Nat) (sheet : ReportSheet), sheets[i]? = some sheet →
        ∀ (r c : Nat) (moment : DateTime), sheet.value? r c = some (.dateTime moment) →
          ∃ (worksheet : Worksheet) (column : ExportColumn),
            (sheet.write rules).result = .ok worksheet ∧
            workbook[i]? = some worksheet.stored ∧ sheet.columns[c]? = some column ∧
            column.cell? (.dateTime moment) =
              pure (some (.number moment.serial, some column.dateFormat)) ∧
            ⟨ReportSheet.rowNumber r, ReportSheet.columnNumber c, .number moment.serial,
              some column.dateFormat, false⟩ ∈ worksheet.writes ∧
            storedDate r c column moment ∈ worksheet.stored.cells ∧
            (rules.KeepsGrid → sheet.rows.length < gridRows → ∀ cell ∈ worksheet.stored.cells,
              cell.row = r + 1 → cell.column = c → cell = storedDate r c column moment) ∧
            (moment.serial < 0 ↔ moment.nanosSince spreadsheetEpoch.dayNumber ≤ -1000000) ∧
            (moment.IsWhole → (moment.serial < 0 ↔ moment.Before .epochStart)) := by
  refine ⟨exportSheets_lines rules destination sheets, ?_⟩
  intro workbook exported i sheet present r c moment held
  obtain ⟨worksheet, written, placed⟩ := exportSheets_getElem? exported present
  obtain ⟨column, headed, issued, stored, alone⟩ := ReportSheet.stored_date written held
  have sign := moment.serial_sign.1
  refine ⟨worksheet, column, written, placed, headed, column.cell?_eq _, issued, stored, alone, ?_, ?_⟩
  · exact sign.trans DateTime.serialMillis_neg_iff
  · intro whole
    exact sign.trans (DateTime.before_epochStart_iff whole).symm

theorem dates_are_written_as_numbers_among_numbers :
    let last : DateTime := ⟨⟨1899, 12, 29, by decide, by decide, by decide⟩,
      ⟨23, 59, 59, 999000000, by decide, by decide, by decide, by decide, by decide⟩⟩
    let paid : ExportColumn := ⟨"Paid", .numeric, "0.00"⟩
    let sheet : ReportSheet := ⟨"Payments", [paid], [[.empty], [.dateTime last]]⟩
    ∃ (workbook : Workbook) (worksheet : Worksheet),
      (exportSheets .workbook (.file "payments.xlsx") [sheet]).value = .ok workbook ∧
      workbook[0]? = some worksheet.stored ∧ storedDate 1 0 paid last ∈ worksheet.stored.cells ∧
      (∀ cell ∈ worksheet.stored.cells, cell.row = 2 → cell.column = 0 →
        cell = storedDate 1 0 paid last) ∧
      last.Before .epochStart ∧ last.serial < 0 := by
  intro last paid sheet
  have exported : (exportSheets .workbook (.file "payments.xlsx") [sheet]).value =
      .ok [⟨"Payments", [8], [⟨0, 0, .text "Paid", none, true⟩, storedDate 1 0 paid last]⟩] := by
    decide +kernel
  have whole : last.IsWhole := ⟨by decide, by decide⟩
  have before : last.Before .epochStart := by
    left
    right
    exact ⟨rfl, Or.inr ⟨rfl, by decide⟩⟩
  obtain ⟨-, dates⟩ := dates_are_written_as_numbers .workbook (.file "payments.xlsx") [sheet]
  obtain ⟨worksheet, column, -, placed, headed, -, -, among, alone, -, sign⟩ :=
    dates _ exported 0 sheet rfl 1 0 last rfl
  cases headed
  exact ⟨_, worksheet, exported, placed, among, alone workbook_keepsGrid (by decide), before,
    (sign whole).mpr before⟩

/-- The day before the epoch is stored as the number of days, and not as its default text, and nothing is
logged. -/
theorem early_date_becomes_negative_number :
    let early : DateTime := ⟨⟨1899, 12, 29, by decide, by decide, by decide⟩, .midnight⟩
    let sheet : ReportSheet := ⟨"Early", [⟨"Date", .dateTime, ""⟩], [[.dateTime early]]⟩
    early.Before .epochStart ∧ early.defaultText = "12/29/1899 00:00:00" ∧
      (exportSheets .workbook .memory [sheet]).lines = [] ∧
      (exportSheets .workbook .memory [sheet]).value =
        .ok [⟨"Early", [8], [⟨0, 0, .text "Date", none, true⟩,
          ⟨1, 0, .number (-1.0), some "yyyy-mm-dd hh:mm:ss", false⟩]⟩] := by
  intro early sheet
  refine ⟨?_, by decide +kernel, by decide +kernel, by decide +kernel⟩
  left
  right
  exact ⟨rfl, Or.inr ⟨rfl, by decide⟩⟩

end ReportColumns
