import ReportColumns.Proofs.Sheet.Writing
/-!
Where the values of a sheet are written.

A place is a row and a column, counted from zero. The numbers that a workbook has for them are narrow, but
a sheet that was written has no column past the grid: the header in the first of those was refused.
-/

namespace ReportColumns

/-- Nothing is taken outside the grid of a workbook. -/
def SheetRules.KeepsGrid (rules : SheetRules) : Prop :=
  ∀ write, rules.cell write = .ok () →
    write.row.toNat < gridRows ∧ write.column.toNat < gridColumns

theorem workbook_keepsGrid : SheetRules.workbook.KeepsGrid := by
  intro write taken
  by_cases outside : gridRows ≤ write.row.toNat ∨ gridColumns ≤ write.column.toNat
  · have refused : SheetRules.workbook.cell write = .error .outsideGrid := if_pos outside
    rw [refused] at taken
    cases taken
  · omega

section Numbered

variable {α : Type} {key : α → Nat}

theorem filter_flatten_of_keyed {offset : Nat} {lists : List (List α)}
    (keyed : ∀ i list, lists[i]? = some list → ∀ a ∈ list, key a = offset + i) (k : Nat) :
    lists.flatten.filter (key · = offset + k) = lists[k]?.getD [] := by
  -- Each list takes one key off the front, so the rest has the keys from the next one on.
  induction lists generalizing offset k with
  | nil => rfl
  | cons first rest ih =>
    have here : ∀ a ∈ first, key a = offset := keyed 0 first rfl
    have later : ∀ i list, rest[i]? = some list → ∀ a ∈ list, key a = offset + 1 + i := by
      intro i list found a member
      rw [keyed (i + 1) list found a member]
      omega
    rw [List.flatten_cons, List.filter_append]
    cases k with
    | zero =>
      have all : first.filter (key · = offset + 0) = first := by
        rw [List.filter_eq_self]
        intro a member
        simp [here a member]
      have none : rest.flatten.filter (key · = offset + 0) = [] := by
        rw [List.filter_eq_nil_iff]
        intro a member
        obtain ⟨list, among, inside⟩ := List.mem_flatten.mp member
        obtain ⟨i, found⟩ := List.mem_iff_getElem?.mp among
        rw [later i list found a inside, decide_eq_true_eq]
        omega
      rw [all, none, List.append_nil]
      rfl
    | succ k =>
      have none : first.filter (key · = offset + (k + 1)) = [] := by
        rw [List.filter_eq_nil_iff]
        intro a member
        rw [here a member, decide_eq_true_eq]
        omega
      have shifted : offset + (k + 1) = offset + 1 + k := by omega
      rw [none, List.nil_append, List.getElem?_cons_succ, shifted, ih later k]

theorem filterMap_id_eq_flatten (slots : List (Option α)) :
    slots.filterMap id = (slots.map Option.toList).flatten := by
  induction slots with
  | nil => rfl
  | cons first rest ih =>
    cases first with
    | none => exact ih
    | some a => exact congrArg (a :: ·) ih

theorem filter_slots_of_keyed {slots : List (Option α)}
    (keyed : ∀ i a, slots[i]? = some (some a) → key a = i) (k : Nat) :
    (slots.filterMap id).filter (key · = k) = slots[k]?.join.toList := by
  have in_slot : ∀ i list, (slots.map Option.toList)[i]? = some list → ∀ a ∈ list, key a = 0 + i := by
    intro i list found a member
    rw [List.getElem?_map, Option.map_eq_some_iff] at found
    obtain ⟨slot, at_slot, rfl⟩ := found
    rw [Option.mem_toList.mp member] at at_slot
    rw [keyed i a at_slot, Nat.zero_add]
  have filtered := filter_flatten_of_keyed in_slot k
  rw [Nat.zero_add] at filtered
  rw [filterMap_id_eq_flatten, filtered, List.getElem?_map]
  cases slots[k]? <;> rfl

theorem filter_of_keyed {items : List α} (keyed : ∀ i a, items[i]? = some a → key a = i) (k : Nat) :
    items.filter (key · = k) = items[k]?.toList := by
  have slots : items = (items.map some).filterMap id := by
    rw [List.filterMap_map]
    exact List.filterMap_some.symm
  have in_slot : ∀ i a, (items.map some)[i]? = some (some a) → key a = i := by
    intro i a found
    exact keyed i a (by simpa using found)
  rw [slots, filter_slots_of_keyed in_slot k, ← slots, List.getElem?_map]
  cases items[k]? <;> rfl

end Numbered

def CellWrite.place (write : CellWrite) : Nat × Nat := (write.row.toNat, write.column.toNat)

def CellWrite.entry (write : CellWrite) : CellContent × Option String × Bool :=
  (write.content, write.numberFormat, write.bold)

def Worksheet.entriesAt (worksheet : Worksheet) (row column : Nat) :
    List (CellContent × Option String × Bool) :=
  (worksheet.writes.filter (·.place == (row, column))).map CellWrite.entry

namespace ReportSheet

variable {rules : SheetRules} {sheet : ReportSheet}

def value? (sheet : ReportSheet) (r c : Nat) : Option Value :=
  sheet.rows[r]?.bind (·[c]?)

def writeAt? (sheet : ReportSheet) : Nat → Nat → Option CellWrite
  | 0, c => sheet.columns[c]?.map fun column =>
      ⟨0, columnNumber c, .text column.header, none, true⟩
  | r + 1, c => sheet.columns[c]?.bind fun column =>
      (sheet.value? r c).bind (valueWrite? r c column)

theorem columnNumber_toNat {c : Nat} (inside : c < gridColumns) : (columnNumber c).toNat = c := by
  have narrow : c < 2 ^ 16 := Nat.lt_trans inside (by decide)
  exact UInt16.toNat_ofNat_of_lt narrow

theorem rowNumber_toNat {r : Nat} (inside : r + 1 < gridRows) : (rowNumber r).toNat = r + 1 := by
  have narrow : r + 1 < 2 ^ 32 := Nat.lt_trans inside (by decide)
  have sum : rowNumber r = UInt32.ofNat (r + 1) := (UInt32.ofNat_add r 1).symm
  rw [sum]
  exact UInt32.toNat_ofNat_of_lt narrow

theorem columns_of_taken (grid : rules.KeepsGrid)
    (taken : ∀ write ∈ sheet.cellWrites, rules.cell write = .ok ()) :
    sheet.columns.length ≤ gridColumns := by
  apply Nat.le_of_not_lt
  intro present
  have issued : (⟨0, columnNumber gridColumns, .text sheet.columns[gridColumns].header, none, true⟩ :
      CellWrite) ∈ sheet.cellWrites := by
    rw [cellWrites, List.flatten_cons, List.mem_append]
    left
    exact List.mem_mapIdx.mpr ⟨gridColumns, present, rfl⟩
  have past : ¬ (columnNumber gridColumns).toNat < gridColumns := by decide
  exact past (grid _ (taken _ issued)).2

theorem headerWrites_at (wide : sheet.columns.length ≤ gridColumns) (c : Nat) :
    sheet.headerWrites.filter (·.column.toNat = c) = (sheet.writeAt? 0 c).toList := by
  have numbered : ∀ i (write : CellWrite), sheet.headerWrites[i]? = some write →
      write.column.toNat = i := by
    intro i write found
    rw [headerWrites, List.getElem?_mapIdx, Option.map_eq_some_iff] at found
    obtain ⟨column, present, rfl⟩ := found
    have bound := (List.getElem?_eq_some_iff.mp present).1
    exact columnNumber_toNat (by omega)
  rw [filter_of_keyed numbered c, headerWrites, List.getElem?_mapIdx, writeAt?]

theorem valueWrite?_place {r c : Nat} {column : ExportColumn} {value : Value} {write : CellWrite}
    (written : valueWrite? r c column value = some write) :
    write.row = rowNumber r ∧ write.column = columnNumber c := by
  rw [valueWrite?, Option.map_eq_some_iff] at written
  obtain ⟨cell, -, rfl⟩ := written
  exact ⟨rfl, rfl⟩

theorem rowWrites_at (wide : sheet.columns.length ≤ gridColumns) (r c : Nat) (row : List Value) :
    (sheet.rowWrites r row).filter (·.column.toNat = c) =
      (sheet.columns[c]?.bind fun column => row[c]?.bind (valueWrite? r c column)).toList := by
  have numbered : ∀ i (write : CellWrite), ((sheet.columns.zip row).mapIdx fun index pair =>
      valueWrite? r index pair.1 pair.2)[i]? = some (some write) → write.column.toNat = i := by
    intro i write found
    rw [List.getElem?_mapIdx, Option.map_eq_some_iff] at found
    obtain ⟨pair, present, written⟩ := found
    have bound := (List.getElem?_eq_some_iff.mp (List.getElem?_zip_eq_some.mp present).1).1
    rw [(valueWrite?_place written).2]
    exact columnNumber_toNat (by omega)
  rw [rowWrites, filter_slots_of_keyed numbered c, List.getElem?_mapIdx]
  congr 1
  rw [List.zip, List.getElem?_zipWith]
  cases sheet.columns[c]? <;> cases row[c]? <;> rfl

theorem column_of_value {r c : Nat} {value : Value}
    (fit : ∀ row ∈ sheet.rows, row.length = sheet.columns.length)
    (held : sheet.value? r c = some value) : ∃ column, sheet.columns[c]? = some column := by
  obtain ⟨row, in_row, found⟩ := Option.bind_eq_some_iff.mp held
  have bound : c < sheet.columns.length := by
    rw [← fit row (List.mem_of_getElem? in_row)]
    exact (List.getElem?_eq_some_iff.mp found).1
  exact ⟨_, List.getElem?_eq_getElem bound⟩

theorem valueWrite_mem {r c : Nat} {column : ExportColumn} {value : Value} {write : CellWrite}
    (present : sheet.columns[c]? = some column) (held : sheet.value? r c = some value)
    (called : valueWrite? r c column value = some write) : write ∈ sheet.cellWrites := by
  obtain ⟨row, in_row, found⟩ := Option.bind_eq_some_iff.mp held
  have in_rows : sheet.rowWrites r row ∈ sheet.rows.mapIdx sheet.rowWrites := by
    apply List.mem_of_getElem? (i := r)
    rw [List.getElem?_mapIdx, in_row]
    rfl
  have paired : (sheet.columns.zip row)[c]? = some (column, value) :=
    List.getElem?_zip_eq_some.mpr ⟨present, found⟩
  have in_writes : write ∈ sheet.rowWrites r row := by
    apply List.mem_filterMap.mpr
    refine ⟨some write, List.mem_of_getElem? (i := c) ?_, rfl⟩
    rw [List.getElem?_mapIdx, paired, ← called]
    rfl
  rw [cellWrites, List.flatten_cons, List.mem_append]
  exact Or.inr (List.mem_flatten.mpr ⟨_, in_rows, in_writes⟩)

theorem of_writeAt? {row c : Nat} {write : CellWrite} (called : sheet.writeAt? row c = some write) :
    ∃ column, sheet.columns[c]? = some column ∧
      ((row = 0 ∧ write.content = .text column.header) ∨
        ∃ r value, row = r + 1 ∧ sheet.value? r c = some value ∧
          column.entry? value = some (write.content, write.numberFormat)) := by
  cases row with
  | zero =>
    obtain ⟨column, present, rfl⟩ := Option.map_eq_some_iff.mp called
    exact ⟨column, present, Or.inl ⟨rfl, rfl⟩⟩
  | succ r =>
    obtain ⟨column, present, below⟩ := Option.bind_eq_some_iff.mp called
    obtain ⟨value, held, written⟩ := Option.bind_eq_some_iff.mp below
    obtain ⟨cell, shown, rfl⟩ := Option.map_eq_some_iff.mp written
    exact ⟨column, present, Or.inr ⟨r, value, rfl, held, shown⟩⟩

/-- Of the writes of a sheet, those for a place are the one that it calls for. -/
theorem cellWrites_at (wide : sheet.columns.length ≤ gridColumns)
    (room : sheet.rows.length < gridRows) (row column : Nat) :
    sheet.cellWrites.filter (·.place == (row, column)) = (sheet.writeAt? row column).toList := by
  have numbered : ∀ i list, (sheet.headerWrites :: sheet.rows.mapIdx sheet.rowWrites)[i]? = some list →
      ∀ write ∈ list, write.row.toNat = 0 + i := by
    intro i list found write member
    cases i with
    | zero =>
      cases found
      obtain ⟨c, -, rfl⟩ := List.mem_mapIdx.mp member
      rfl
    | succ r =>
      rw [List.getElem?_cons_succ, List.getElem?_mapIdx, Option.map_eq_some_iff] at found
      obtain ⟨values, present, rfl⟩ := found
      have bound := (List.getElem?_eq_some_iff.mp present).1
      obtain ⟨slot, among, filled⟩ := List.mem_filterMap.mp member
      obtain ⟨c, bounded, made⟩ := List.mem_mapIdx.mp among
      rw [(valueWrite?_place (made.trans filled)).1, rowNumber_toNat (by omega), Nat.zero_add]
  have both : (fun write : CellWrite => write.place == (row, column)) =
      fun write => decide (write.column.toNat = column) && decide (write.row.toNat = row) := by
    funext write
    rw [Bool.eq_iff_iff]
    simp [CellWrite.place, and_comm]
  -- The list of a row holds all writes of that row, so the place is looked for in it alone.
  have in_row := filter_flatten_of_keyed numbered row
  rw [Nat.zero_add] at in_row
  rw [both, ← List.filter_filter, cellWrites, in_row]
  cases row with
  | zero => exact headerWrites_at wide column
  | succ r =>
    rw [List.getElem?_cons_succ, List.getElem?_mapIdx, writeAt?, value?]
    cases sheet.rows[r]? with
    | none => cases sheet.columns[column]? <;> rfl
    | some values => exact rowWrites_at wide r column values

theorem writeAt?_of_mem (wide : sheet.columns.length ≤ gridColumns)
    (room : sheet.rows.length < gridRows) {write : CellWrite} (issued : write ∈ sheet.cellWrites) :
    sheet.writeAt? write.row.toNat write.column.toNat = some write := by
  apply Option.mem_toList.mp
  rw [← cellWrites_at wide room]
  exact List.mem_filter.mpr ⟨issued, beq_self_eq_true _⟩

theorem row_lt_of_value? {r c : Nat} {value : Value} (held : sheet.value? r c = some value) :
    r < sheet.rows.length := by
  obtain ⟨row, present, -⟩ := Option.bind_eq_some_iff.mp held
  exact (List.getElem?_eq_some_iff.mp present).1

theorem text_of_writeAt? {row c : Nat} {write : CellWrite} {s : String}
    (called : sheet.writeAt? row c = some write) (shown : write.content = .text s) :
    (∃ column ∈ sheet.columns, column.header = s) ∨ ∃ values ∈ sheet.rows, .text s ∈ values := by
  obtain ⟨column, present, ⟨-, header⟩ | ⟨r, value, -, held, cell⟩⟩ := of_writeAt? called
  · left
    cases shown.symm.trans header
    exact ⟨column, List.mem_of_getElem? present, rfl⟩
  · right
    rw [shown] at cell
    cases value with
    | text s' =>
      obtain ⟨same, -⟩ := Prod.mk.inj (Option.some.inj cell)
      cases same
      obtain ⟨values, among, found⟩ := Option.bind_eq_some_iff.mp held
      exact ⟨values, List.mem_of_getElem? among, List.mem_of_getElem? found⟩
    | empty | number | integer | boolean | dateTime => cases cell

theorem check_of_short {write : CellWrite} (low : write.row.toNat < gridRows)
    (left : write.column.toNat < gridColumns)
    (short : ∀ s, write.content = .text s → s.length ≤ longestText) :
    write.check = .ok () := by
  have inside : ¬ (gridRows ≤ write.row.toNat ∨ gridColumns ≤ write.column.toNat) := by omega
  rw [CellWrite.check, if_neg inside]
  cases content : write.content with
  | text s => exact if_neg (Nat.not_lt.mpr (short s content))
  | number | boolean => rfl

theorem write_workbook (headed : sheet.columns ≠ [])
    (named : checkSheetName sheet.name = .ok ())
    (wide : sheet.columns.length ≤ gridColumns) (room : sheet.rows.length < gridRows)
    (fit : ∀ row ∈ sheet.rows, row.length = sheet.columns.length)
    (short_headers : ∀ column ∈ sheet.columns, column.header.length ≤ longestText)
    (short_texts : ∀ row ∈ sheet.rows, ∀ s, .text s ∈ row → s.length ≤ longestText) :
    (sheet.write .workbook).result = .ok ⟨sheet.name, sheet.cellWrites, sheet.widths⟩ := by
  rw [write_eq_ok_iff]
  refine ⟨headed, named, fit, ?_, ?_, rfl⟩
  · intro write issued
    have called := writeAt?_of_mem wide room issued
    obtain ⟨column, present, place⟩ := of_writeAt? called
    have left := (List.getElem?_eq_some_iff.mp present).1
    apply check_of_short
    · rcases place with ⟨top, -⟩ | ⟨r, value, below, held, -⟩
      · rw [top]
        decide
      · have bound := row_lt_of_value? held
        omega
    · omega
    · intro s shown
      rcases text_of_writeAt? called shown with ⟨column, among, rfl⟩ | ⟨values, among, member⟩
      · exact short_headers column among
      · exact short_texts values among s member
  · intro width given
    obtain ⟨c, bound, rfl⟩ := List.mem_mapIdx.mp given
    refine if_neg (Nat.not_le.mpr ?_)
    rw [columnNumber_toNat] <;> omega

end ReportSheet

end ReportColumns
