import Mathlib.Order.Bounds.Defs
import ReportColumns.Proofs.Sheet.Placement
/-!
What a sheet that was written holds of its values.

Every header and every value stands in a place of its own, in the form of its kind. A column is as wide as
its longest text asks, within bounds.
-/

namespace ReportColumns

namespace ReportSheet

/-- The lengths that ask room of a column: of its header, and of the texts below. -/
def lengths (sheet : ReportSheet) (c : Nat) (column : ExportColumn) : Set Nat :=
  {n | n = column.header.length ∨ ∃ r s, sheet.value? r c = some (.text s) ∧ n = s.length}

/-- The sheet with one value in the place of another. -/
def replaced (sheet : ReportSheet) (r c : Nat) (value : Value) : ReportSheet :=
  { sheet with rows := sheet.rows.modify r (·.set c value) }

end ReportSheet

/-- What a written worksheet holds of a sheet: each header and each value once, and nothing else. -/
structure Worksheet.Records (worksheet : Worksheet) (sheet : ReportSheet) : Prop where
  header : ∀ c column, sheet.columns[c]? = some column →
    worksheet.entriesAt 0 c = [(.text column.header, none, true)]
  number : ∀ r c value x, sheet.value? r c = some value → value.toFloat? = some x →
    ∃ column, sheet.columns[c]? = some column ∧
      worksheet.entriesAt (r + 1) c =
        [(.number x,
          if column.spreadsheetFormat = "" then none else some column.spreadsheetFormat, false)]
  date : ∀ r c moment, sheet.value? r c = some (.dateTime moment) →
    ∃ column, sheet.columns[c]? = some column ∧
      worksheet.entriesAt (r + 1) c =
        [(.number moment.serial,
          some (if column.classification = .dateTime ∧ column.spreadsheetFormat ≠ "" then
              column.spreadsheetFormat else fallbackDateFormat), false)]
  text : ∀ r c s, sheet.value? r c = some (.text s) →
    worksheet.entriesAt (r + 1) c = [(.text s, none, false)]
  boolean : ∀ r c b, sheet.value? r c = some (.boolean b) →
    worksheet.entriesAt (r + 1) c = [(.boolean b, none, false)]
  nothing_else : ∀ row c, worksheet.entriesAt row c ≠ [] →
    (row = 0 ∧ c < sheet.columns.length) ∨
      ∃ r value, row = r + 1 ∧ sheet.value? r c = some value ∧ value ≠ .empty
  /-- A column has a width between 8 and 60, with room for two more than its longest text. -/
  width : ∀ c column, sheet.columns[c]? = some column →
    ∃ number longest, worksheet.widths[c]? = some (number, min 60 (max 8 (longest + 2))) ∧
      number.toNat = c ∧ IsGreatest (sheet.lengths c column) longest
  no_more_widths : worksheet.widths.length = sheet.columns.length

namespace ReportSheet

variable {rules : SheetRules} {sheet : ReportSheet} {worksheet : Worksheet}

theorem foldl_max_isGreatest (start : Nat) (lengths : List Nat) :
    IsGreatest {n | n = start ∨ n ∈ lengths} (lengths.foldl max start) := by
  have maximum : (start :: lengths).max? = some (lengths.foldl max start) := List.max?_cons'
  obtain ⟨attained, bound⟩ := List.max?_eq_some_iff.mp maximum
  constructor
  · exact List.mem_cons.mp attained
  · intro n member
    exact bound n (List.mem_cons.mpr member)

theorem mem_textWidths {c n : Nat} :
    n ∈ sheet.rows.map (fun row => (row[c]?.map textWidth).getD 0) →
      n = 0 ∨ ∃ r s, sheet.value? r c = some (.text s) ∧ n = s.length := by
  intro member
  obtain ⟨row, among, rfl⟩ := List.mem_map.mp member
  obtain ⟨r, present⟩ := List.mem_iff_getElem?.mp among
  have here : sheet.value? r c = row[c]? := by rw [value?, present]; rfl
  cases found : row[c]? with
  | none => exact Or.inl rfl
  | some value =>
    cases value with
    | text s => exact Or.inr ⟨r, s, here.trans found, rfl⟩
    | empty | number | integer | boolean | dateTime => exact Or.inl rfl

theorem length_mem_textWidths {r c : Nat} {s : String} (held : sheet.value? r c = some (.text s)) :
    s.length ∈ sheet.rows.map fun row => (row[c]?.map textWidth).getD 0 := by
  obtain ⟨row, present, found⟩ := Option.bind_eq_some_iff.mp held
  exact List.mem_map.mpr ⟨row, List.mem_of_getElem? present, by rw [found]; rfl⟩

theorem columnWidth_spec (sheet : ReportSheet) (c : Nat) (column : ExportColumn) :
    ∃ longest, sheet.columnWidth c column = min 60 (max 8 (longest + 2)) ∧
      IsGreatest (sheet.lengths c column) longest := by
  refine ⟨_, rfl, ?_⟩
  obtain ⟨attained, bound⟩ := foldl_max_isGreatest column.header.length
    (sheet.rows.map fun row => (row[c]?.map textWidth).getD 0)
  constructor
  · rcases attained with header | among
    · exact Or.inl header
    · rcases mem_textWidths among with none | text
      · -- Without a text the greatest is zero, and then the header is empty.
        have short := bound (Or.inl rfl)
        rw [none] at short ⊢
        exact Or.inl (Nat.le_zero.mp short).symm
      · exact Or.inr text
  · rintro n (header | ⟨r, s, held, rfl⟩)
    · exact bound (Or.inl header)
    · exact bound (Or.inr (length_mem_textWidths held))

theorem widths_at (wide : sheet.columns.length ≤ gridColumns) {c : Nat} {column : ExportColumn}
    (present : sheet.columns[c]? = some column) :
    ∃ number longest, sheet.widths[c]? = some (number, min 60 (max 8 (longest + 2))) ∧
      number.toNat = c ∧ IsGreatest (sheet.lengths c column) longest := by
  have bound := (List.getElem?_eq_some_iff.mp present).1
  obtain ⟨longest, width, greatest⟩ := sheet.columnWidth_spec c column
  refine ⟨columnNumber c, longest, ?_, columnNumber_toNat (by omega), greatest⟩
  rw [widths, List.getElem?_mapIdx, present, ← width]
  rfl

theorem set_elsewhere {r c row k : Nat} (elsewhere : (row, k) ≠ (r, c)) (value : Value)
    (values : List Value) :
    (if r = row then values.set c value else values)[k]? = values[k]? := by
  split
  · next same =>
    have other : c ≠ k := by
      intro equal
      exact elsewhere (by rw [same, equal])
    exact List.getElem?_set_ne other
  · rfl

theorem value?_replaced {r c row k : Nat} {value : Value} (elsewhere : (row, k) ≠ (r, c)) :
    (sheet.replaced r c value).value? row k = sheet.value? row k := by
  rw [value?, replaced, List.getElem?_modify, value?]
  cases sheet.rows[row]? with
  | none => rfl
  | some values => exact set_elsewhere elsewhere value values

theorem writeAt?_replaced {r c row k : Nat} {value : Value} (elsewhere : (row, k) ≠ (r + 1, c)) :
    (sheet.replaced r c value).writeAt? row k = sheet.writeAt? row k := by
  cases row with
  | zero => rfl
  | succ row =>
    have other : (row, k) ≠ (r, c) := by
      intro same
      cases same
      exact elsewhere rfl
    rw [writeAt?, writeAt?, value?_replaced other]
    rfl

theorem columnWidth_replaced {r c k : Nat} {value : Value} (elsewhere : k ≠ c)
    (column : ExportColumn) :
    (sheet.replaced r c value).columnWidth k column = sheet.columnWidth k column := by
  have same : (sheet.replaced r c value).rows.map (fun row => (row[k]?.map textWidth).getD 0) =
      sheet.rows.map fun row => (row[k]?.map textWidth).getD 0 := by
    apply List.ext_getElem?
    intro row
    rw [List.getElem?_map, replaced, List.getElem?_modify, List.getElem?_map]
    cases sheet.rows[row]? with
    | none => rfl
    | some values =>
      have other : (row, k) ≠ (r, c) := fun equal => elsewhere (Prod.mk.inj equal).2
      have kept := set_elsewhere other value values
      simp [kept]
  rw [columnWidth, same, columnWidth]

theorem widths_replaced {r c k : Nat} {value : Value} (elsewhere : k ≠ c) :
    (sheet.replaced r c value).widths[k]? = sheet.widths[k]? := by
  rw [widths, widths, List.getElem?_mapIdx, List.getElem?_mapIdx]
  exact Option.map_congr fun column _ => by rw [columnWidth_replaced elsewhere]

theorem entriesAt_of_written (wide : sheet.columns.length ≤ gridColumns)
    (room : sheet.rows.length < gridRows) (row column : Nat) :
    (⟨sheet.name, sheet.cellWrites, sheet.widths⟩ : Worksheet).entriesAt row column =
      ((sheet.writeAt? row column).map CellWrite.entry).toList := by
  rw [Worksheet.entriesAt, cellWrites_at wide room, Option.toList_map]

theorem places_nodup (wide : sheet.columns.length ≤ gridColumns)
    (room : sheet.rows.length < gridRows) : (sheet.cellWrites.map CellWrite.place).Nodup := by
  rw [List.nodup_iff_count]
  rintro ⟨row, column⟩
  have counted : (sheet.cellWrites.map CellWrite.place).count (row, column) =
      (sheet.cellWrites.filter (·.place == (row, column))).length := by
    rw [List.count_eq_countP, List.countP_map, List.countP_eq_length_filter]
    rfl
  rw [counted, cellWrites_at wide room]
  cases sheet.writeAt? row column <;> simp

theorem format?_eq (column : ExportColumn) :
    column.format? =
      if column.spreadsheetFormat = "" then none else some column.spreadsheetFormat := by
  simp [ExportColumn.format?]

theorem dateFormat_eq (column : ExportColumn) :
    column.dateFormat =
      if column.classification = .dateTime ∧ column.spreadsheetFormat ≠ "" then
        column.spreadsheetFormat else fallbackDateFormat := by
  unfold ExportColumn.dateFormat
  rw [format?_eq]
  cases column.classification <;> by_cases general : column.spreadsheetFormat = "" <;> simp [general]

theorem entriesAt_value (wide : sheet.columns.length ≤ gridColumns)
    (room : sheet.rows.length < gridRows)
    (fit : ∀ row ∈ sheet.rows, row.length = sheet.columns.length) {r c : Nat} {value : Value}
    (held : sheet.value? r c = some value) :
    ∃ column, sheet.columns[c]? = some column ∧
      (⟨sheet.name, sheet.cellWrites, sheet.widths⟩ : Worksheet).entriesAt (r + 1) c =
        ((column.entry? value).map fun cell => (cell.1, cell.2, false)).toList := by
  obtain ⟨column, present⟩ := column_of_value fit held
  refine ⟨column, present, ?_⟩
  rw [entriesAt_of_written wide room, writeAt?, present, held, Option.bind_some, Option.bind_some,
    valueWrite?, Option.map_map]
  rfl

theorem records_of_written (wide : sheet.columns.length ≤ gridColumns)
    (room : sheet.rows.length < gridRows)
    (fit : ∀ row ∈ sheet.rows, row.length = sheet.columns.length) :
    (⟨sheet.name, sheet.cellWrites, sheet.widths⟩ : Worksheet).Records sheet where
  header c column present := by
    rw [entriesAt_of_written wide room, writeAt?, present]
    rfl
  number r c value x held amount := by
    obtain ⟨column, present, entry⟩ := entriesAt_value wide room fit held
    refine ⟨column, present, ?_⟩
    rw [entry, ← format?_eq]
    cases value with
    | number | integer =>
      cases amount
      rfl
    | empty | text | boolean | dateTime => cases amount
  date r c moment held := by
    obtain ⟨column, present, entry⟩ := entriesAt_value wide room fit held
    refine ⟨column, present, ?_⟩
    rw [entry, ← dateFormat_eq]
    rfl
  text r c s held := by
    obtain ⟨column, -, entry⟩ := entriesAt_value wide room fit held
    exact entry
  boolean r c b held := by
    obtain ⟨column, -, entry⟩ := entriesAt_value wide room fit held
    exact entry
  nothing_else row c written := by
    cases called : sheet.writeAt? row c with
    | none =>
      rw [entriesAt_of_written wide room, called] at written
      exact absurd rfl written
    | some write =>
      obtain ⟨column, present, place⟩ := of_writeAt? called
      rcases place with ⟨top, -⟩ | ⟨r, value, below, held, cell⟩
      · exact Or.inl ⟨top, (List.getElem?_eq_some_iff.mp present).1⟩
      · refine Or.inr ⟨r, value, below, held, ?_⟩
        rintro rfl
        cases cell
  width c column present := widths_at wide present
  no_more_widths := List.length_mapIdx

/-- A sheet with room for its rows that comes through into a grid has written each value once, in its own
place.

* The worksheet holds each header, each value and each width as it should, and no place is written twice.
* The numbers of columns and rows do not come round, so that different places stay different.
* If the sheet with another value in one place comes through as well, only that place and the width of
  that column can differ. -/
theorem write_places_each_value_once (rules : SheetRules) (grid : rules.KeepsGrid)
    (sheet : ReportSheet) (room : sheet.rows.length < gridRows) (worksheet : Worksheet)
    (written : (sheet.write rules).result = .ok worksheet) :
    worksheet.Records sheet ∧ (worksheet.writes.map CellWrite.place).Nodup ∧
      (∀ c < sheet.columns.length, (columnNumber c).toNat = c) ∧
      (∀ r < sheet.rows.length, (rowNumber r).toNat = r + 1) ∧
      ∀ r c value other, ((sheet.replaced r c value).write rules).result = .ok other →
        (∀ row k, (row, k) ≠ (r + 1, c) → other.entriesAt row k = worksheet.entriesAt row k) ∧
        ∀ k, k ≠ c → other.widths[k]? = worksheet.widths[k]? := by
  obtain ⟨-, -, fit, taken, -, rfl⟩ := write_eq_ok_iff.mp written
  have wide : sheet.columns.length ≤ gridColumns := columns_of_taken grid taken
  refine ⟨records_of_written wide room fit, places_nodup wide room, ?_, ?_, ?_⟩
  · intro c inside
    exact columnNumber_toNat (by omega)
  · intro r inside
    exact rowNumber_toNat (by omega)
  · intro r c value other rewritten
    obtain ⟨-, -, -, -, -, rfl⟩ := write_eq_ok_iff.mp rewritten
    have wide' : (sheet.replaced r c value).columns.length ≤ gridColumns := wide
    have room' : (sheet.replaced r c value).rows.length < gridRows := by
      rw [replaced, List.length_modify]
      exact room
    constructor
    · intro row k elsewhere
      rw [entriesAt_of_written wide' room', entriesAt_of_written wide room,
        writeAt?_replaced elsewhere]
    · intro k elsewhere
      exact widths_replaced elsewhere

theorem write_places_each_value_once_orders :
    let orders (region : String) : ReportSheet :=
      ⟨"Orders", [⟨"Region", .text, ""⟩, ⟨"Amount", .numeric, "#,##0.00"⟩],
        [[.text region, .integer 12], [.empty, .number 0.5]]⟩
    (orders "North").rows.length < gridRows ∧
      ∃ worksheet other, ((orders "North").write .workbook).result = .ok worksheet ∧
        (((orders "North").replaced 0 0 (.text "Everywhere")).write .workbook).result = .ok other ∧
        worksheet.entriesAt 1 0 = [(.text "North", none, false)] ∧
        worksheet.entriesAt 2 0 = [] ∧
        worksheet.entriesAt 2 1 = [(.number 0.5, some "#,##0.00", false)] ∧
        other.entriesAt 2 1 = worksheet.entriesAt 2 1 ∧
        other.widths[1]? = worksheet.widths[1]? := by
  intro orders
  have room : (orders "North").rows.length < gridRows := by decide
  have taken (region : String) (short : region.length ≤ longestText) :
      ((orders region).write .workbook).result =
        .ok ⟨(orders region).name, (orders region).cellWrites, (orders region).widths⟩ := by
    apply write_workbook
    · exact List.cons_ne_nil _ _
    · simp [orders, checkSheetName, longestSheetName, forbiddenInSheetName, apostrophe]
    · show 2 ≤ gridColumns
      decide
    · exact room
    · simp [orders]
    · have headers : "Region".length ≤ longestText ∧ "Amount".length ≤ longestText := by decide
      simp [orders, headers]
    · simp [orders, short]
  have written := taken "North" (by decide)
  have rewritten := taken "Everywhere" (by decide)
  obtain ⟨records, -, -, -, one_place⟩ :=
    write_places_each_value_once .workbook workbook_keepsGrid (orders "North") room _ written
  obtain ⟨cells, widths⟩ := one_place 0 0 (.text "Everywhere") _ rewritten
  obtain ⟨column, amount, entry⟩ := records.number 1 1 (.number 0.5) 0.5 rfl rfl
  cases amount
  refine ⟨room, _, _, written, rewritten, records.text 0 0 "North" rfl, ?_, entry,
    cells 2 1 (by decide), widths 1 (by decide)⟩
  apply Decidable.byContradiction
  intro filled
  obtain ⟨top, -⟩ | ⟨r, value, below, held, given⟩ := records.nothing_else 2 0 filled
  · cases top
  · cases below
    cases held
    exact given rfl

end ReportSheet

end ReportColumns
