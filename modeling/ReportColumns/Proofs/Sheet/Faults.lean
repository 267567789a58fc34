import ReportColumns.Proofs.Sheet.Placement
import ReportColumns.Proofs.Sheet.Rows
/-!
Faults of sheets, and the one that stops an export.

A sheet without columns is at fault, and so is the first row of another width than the headers. An export
that nothing from outside refuses fails on the first sheet at fault and only on that. Rows that were pushed
are never at fault.
-/

namespace ReportColumns

structure First {α : Type} (good : α → Prop) (xs : List α) (k : Nat) (x : α) : Prop where
  found : xs[k]? = some x
  bad : ¬ good x
  before : ∀ y ∈ xs.take k, good y

namespace First

variable {α : Type} {good : α → Prop} {xs : List α} {x y : α} {j k : Nat}

theorem head (bad : ¬ good x) : First good (x :: xs) 0 x := ⟨rfl, bad, by simp⟩

theorem cons (fine : good y) (first : First good xs k x) : First good (y :: xs) (k + 1) x where
  found := first.found
  bad := first.bad
  before := by
    intro z member
    rcases List.mem_cons.mp member with rfl | later
    · exact fine
    · exact first.before z later

theorem mem (first : First good xs k x) : x ∈ xs := List.mem_of_getElem? first.found

theorem not_before (first : First good xs k x) (other : First good xs j y) : ¬ j < k := by
  intro earlier
  have taken : y ∈ xs.take k :=
    List.mem_of_getElem? ((List.getElem?_take_of_lt earlier).trans other.found)
  exact other.bad (first.before y taken)

theorem unique (first : First good xs k x) (other : First good xs j y) : k = j ∧ x = y := by
  have no_earlier := first.not_before other
  have no_later := other.not_before first
  have same : k = j := by omega
  subst same
  exact ⟨rfl, Option.some.inj (first.found.symm.trans other.found)⟩

end First

/-- Writing is refused, if anything can be refused, or it succeeds on what is sound, or it stops at a
fault. -/
inductive Outcome {α : Type} (refusable sound : Prop) (fault : SheetError → Prop) :
    Except ExportError α → Prop where
  | refused (cause : WriteRefusal) (possible : refusable) :
      Outcome refusable sound fault (.error (.refused cause))
  | written (a : α) (intact : sound) : Outcome refusable sound fault (.ok a)
  | faulty (cause : SheetError) (found : fault cause) :
      Outcome refusable sound fault (.error (.sheet cause))

def Passes {α : Type} (refusable : Prop) (action : Export α) : Prop :=
  (∃ a, action.result = .ok a) ∨ ∃ cause, action.result = .error (.refused cause) ∧ refusable

namespace Outcome

variable {α β : Type} {refusable sound refusable' sound' : Prop} {fault fault' : SheetError → Prop}

theorem bind {first : Export α} {next : α → Export β}
    (outcome : Outcome refusable sound fault first.result) (possible : refusable → refusable')
    (faults : ∀ cause, fault cause → fault' cause)
    (rest : sound → ∀ a, Outcome refusable' sound' fault' (next a).result) :
    Outcome refusable' sound' fault' (first >>= next).result := by
  rw [Export.result_bind]
  generalize first.result = result at outcome
  cases outcome with
  | refused cause here => exact .refused cause (possible here)
  | written a intact => exact rest intact a
  | faulty cause found => exact .faulty cause (faults cause found)

theorem pass {first : Export α} {next : α → Export β} (passes : Passes refusable first)
    (rest : ∀ a, Outcome refusable sound fault (next a).result) :
    Outcome refusable sound fault (first >>= next).result := by
  rw [Export.result_bind]
  rcases passes with ⟨a, passed⟩ | ⟨cause, refused, possible⟩
  · rw [passed]
    exact rest a
  · rw [refused]
    exact .refused cause possible

end Outcome

section Passing

variable {α : Type} {refusable : Prop}

theorem passes_checked {check : Except WriteRefusal Unit} (possible : check ≠ .ok () → refusable) :
    Passes refusable (.checked check) := by
  rw [Passes, Export.result_checked]
  cases check with
  | ok => exact Or.inl ⟨(), rfl⟩
  | error cause => exact Or.inr ⟨cause, rfl, possible nofun⟩

theorem passes_forM_checked {items : List α} {check : α → Except WriteRefusal Unit}
    (possible : (¬ ∀ item ∈ items, check item = .ok ()) → refusable) :
    Passes refusable (items.forM fun item => .checked (check item)) := by
  induction items with
  | nil => exact Or.inl ⟨(), rfl⟩
  | cons first rest ih =>
    rw [Passes, List.forM, Export.result_bind, Export.result_checked]
    cases here : check first with
    | error cause =>
      refine Or.inr ⟨cause, rfl, possible fun taken => ?_⟩
      rw [taken first List.mem_cons_self] at here
      cases here
    | ok =>
      exact ih fun refused => possible fun taken =>
        refused fun item member => taken item (List.mem_cons_of_mem _ member)

end Passing

/-- The rules take everything that a sheet would write: its name, all cells and all widths. -/
structure SheetRules.Takes (rules : SheetRules) (sheet : ReportSheet) : Prop where
  name : rules.name sheet.name = .ok ()
  cells : ∀ write ∈ sheet.cellWrites, rules.cell write = .ok ()
  widths : ∀ width ∈ sheet.widths, rules.width width.1 = .ok ()

namespace ReportSheet

variable {rules : SheetRules} {sheet : ReportSheet}

structure Sound (sheet : ReportSheet) : Prop where
  headed : sheet.columns ≠ []
  fit : ∀ row ∈ sheet.rows, row.length = sheet.columns.length

/-- What is at fault in a sheet: that it has no columns, else its first row of another width. -/
inductive Fault (sheet : ReportSheet) : SheetError → Prop where
  | noColumns (bare : sheet.columns = []) : Fault sheet (.noColumns sheet.name)
  | rowWidth (r : Nat) (row : List Value) (headed : sheet.columns ≠ [])
      (first : First (·.length = sheet.columns.length) sheet.rows r row) :
      Fault sheet (.rowWidth r sheet.columns.length row.length)

theorem Fault.not_sound {cause : SheetError} (fault : sheet.Fault cause) : ¬ sheet.Sound := by
  intro sound
  cases fault with
  | noColumns bare => exact sound.headed bare
  | rowWidth r row headed first => exact first.bad (sound.fit row first.mem)

theorem Fault.unique {cause other : SheetError} (fault : sheet.Fault cause)
    (fault' : sheet.Fault other) : cause = other := by
  cases fault with
  | noColumns bare =>
    cases fault' with
    | noColumns => rfl
    | rowWidth _ _ headed => exact absurd bare headed
  | rowWidth r row headed first =>
    cases fault' with
    | noColumns bare => exact absurd bare headed
    | rowWidth r' row' _ first' =>
      obtain ⟨rfl, rfl⟩ := first.unique first'
      rfl

theorem not_sound_iff : ¬ sheet.Sound ↔
    sheet.columns = [] ∨ ∃ row ∈ sheet.rows, row.length ≠ sheet.columns.length := by
  constructor
  · intro unsound
    by_cases bare : sheet.columns = []
    · exact Or.inl bare
    · right
      apply Classical.byContradiction
      intro none
      refine unsound ⟨bare, fun row member => ?_⟩
      apply Classical.byContradiction
      intro differs
      exact none ⟨row, member, differs⟩
  · rintro (bare | ⟨row, member, differs⟩) sound
    · exact sound.headed bare
    · exact differs (sound.fit row member)

theorem passes_writeCells {writes : List CellWrite} {refusable : Prop}
    (possible : (¬ ∀ write ∈ writes, rules.cell write = .ok ()) → refusable) :
    Passes refusable (writeCells rules writes) := by
  have taking : Passes refusable (writes.forM rules.takeCell) := passes_forM_checked possible
  rw [Passes, writeCells, Export.result_bind]
  rcases taking with ⟨⟨⟩, taken⟩ | ⟨cause, refused, can⟩
  · rw [taken]
    exact Or.inl ⟨writes, rfl⟩
  · rw [refused]
    exact Or.inr ⟨cause, rfl, can⟩

theorem writeRows_outcome (index : Nat) (rows : List (List Value)) :
    Outcome (¬ ∀ i row, rows[i]? = some row →
        ∀ write ∈ sheet.rowWrites (index + i) row, rules.cell write = .ok ())
      (∀ row ∈ rows, row.length = sheet.columns.length)
      (fun cause => ∃ r row, First (·.length = sheet.columns.length) rows r row ∧
        cause = .rowWidth (index + r) sheet.columns.length row.length)
      (sheet.writeRows rules index rows).result := by
  -- Each row raises the index by one, so a fault of the rest lies one row further on.
  induction rows generalizing index with
  | nil => exact .written [] (by simp)
  | cons row rest ih =>
    rw [writeRows]
    by_cases fits : row.length = sheet.columns.length
    · rw [if_neg (not_not_intro fits)]
      rw [writeRow_eq]
      refine .pass (passes_writeCells ?_) fun here => (ih (index + 1)).bind ?_ ?_ ?_
      · intro refused taken
        exact refused fun write issued => taken 0 row rfl write issued
      · intro refused taken
        refine refused fun i later found write issued => taken (i + 1) later found write ?_
        rwa [Nat.add_right_comm] at issued
      · rintro cause ⟨r, later, first, rfl⟩
        exact ⟨r + 1, later, first.cons fits, by rw [Nat.add_right_comm, Nat.add_assoc]⟩
      · intro fit cells
        exact .written _ (List.forall_mem_cons.mpr ⟨fits, fit⟩)
    · rw [if_pos fits]
      exact .faulty _ ⟨0, row, .head fits, rfl⟩

theorem write_outcome (rules : SheetRules) (sheet : ReportSheet) :
    Outcome (¬ rules.Takes sheet) sheet.Sound sheet.Fault (sheet.write rules).result := by
  by_cases bare : sheet.columns = []
  · rw [write, if_pos (List.isEmpty_iff.mpr bare)]
    exact .faulty _ (.noColumns bare)
  · rw [write, if_neg (mt List.isEmpty_iff.mp bare)]
    refine .pass (passes_checked fun refused taken => refused taken.name) fun _ =>
      .pass (passes_forM_checked fun refused taken => refused ?_) fun _ =>
        (writeRows_outcome 0 sheet.rows).bind ?_ ?_ ?_
    · intro write issued
      exact taken.cells write (List.mem_flatten.mpr ⟨_, List.mem_cons_self, issued⟩)
    · intro refused taken
      refine refused fun i row found write issued => taken.cells write ?_
      rw [Nat.zero_add] at issued
      refine List.mem_flatten.mpr ⟨sheet.rowWrites i row, List.mem_cons_of_mem _ ?_, issued⟩
      exact List.mem_of_getElem? (by rw [List.getElem?_mapIdx, found]; rfl)
    · rintro cause ⟨r, row, first, rfl⟩
      rw [Nat.zero_add]
      exact .rowWidth r row bare first
    · intro fit cells
      exact .pass (passes_forM_checked fun refused taken => refused taken.widths) fun _ =>
        .written _ ⟨bare, fit⟩

end ReportSheet

def FirstFault (sheets : List ReportSheet) (cause : SheetError) : Prop :=
  ∃ k sheet, First ReportSheet.Sound sheets k sheet ∧ sheet.Fault cause

theorem FirstFault.unique {sheets : List ReportSheet} {cause other : SheetError}
    (fault : FirstFault sheets cause) (fault' : FirstFault sheets other) : cause = other := by
  obtain ⟨k, sheet, first, found⟩ := fault
  obtain ⟨j, sheet', first', found'⟩ := fault'
  obtain ⟨rfl, rfl⟩ := first.unique first'
  exact found.unique found'

variable {rules : SheetRules} {sheets : List ReportSheet}

theorem writeAll_outcome (rules : SheetRules) (sheets : List ReportSheet) :
    Outcome (¬ ∀ sheet ∈ sheets, rules.Takes sheet) (∀ sheet ∈ sheets, sheet.Sound)
      (FirstFault sheets) (sheets.mapM (ReportSheet.write rules)).result := by
  induction sheets with
  | nil => exact .written [] (by simp)
  | cons sheet rest ih =>
    rw [List.mapM_cons]
    refine (sheet.write_outcome rules).bind ?_ ?_ ?_
    · intro refused taken
      exact refused (taken sheet List.mem_cons_self)
    · intro cause fault
      exact ⟨0, sheet, .head fault.not_sound, fault⟩
    · intro sound worksheet
      refine ih.bind ?_ ?_ ?_
      · intro refused taken
        exact refused fun other member => taken other (List.mem_cons_of_mem _ member)
      · rintro cause ⟨k, other, first, fault⟩
        exact ⟨k + 1, other, first.cons sound, fault⟩
      · intro others worksheets
        exact .written _ (List.forall_mem_cons.mpr ⟨sound, others⟩)

theorem buildWorkbook_outcome (rules : SheetRules) (sheets : List ReportSheet) :
    Outcome (¬ ∀ sheet ∈ sheets, rules.Takes sheet) (∀ sheet ∈ sheets, sheet.Sound)
      (FirstFault sheets) (buildWorkbook rules sheets).result :=
  (writeAll_outcome rules sheets).bind id (fun _ => id) fun sound _ => .written _ sound

theorem finishWorkbook_outcome {sound : Prop} {fault : SheetError → Prop} (intact : sound)
    (workbook : Workbook) : Outcome True sound fault (finishWorkbook workbook).result := by
  unfold finishWorkbook
  split
  · exact .refused _ trivial
  · split
    · exact .written _ intact
    · exact .written _ intact

theorem exportSheets_outcome (rules : SheetRules) (destination : Destination)
    (sheets : List ReportSheet) :
    Outcome True (∀ sheet ∈ sheets, sheet.Sound) (FirstFault sheets)
      (exportSheets rules destination sheets).value := by
  refine (buildWorkbook_outcome rules sheets).bind (fun _ => trivial) (fun _ => id) ?_
  intro sound workbook
  have finished : Outcome True (∀ sheet ∈ sheets, sheet.Sound) (FirstFault sheets)
    (finishWorkbook workbook).result := finishWorkbook_outcome sound workbook
  cases destination with
  | memory => exact finished
  | unreachable path => exact .refused .cannotCreateFile trivial
  | file path => exact finished.bind id (fun _ => id) fun _ saved => .written saved sound

/-- What an export of sheets comes to when nothing refuses it. -/
structure StopsAtFirstFault {α : Type} (sheets : List ReportSheet) (result : Except ExportError α) :
    Prop where
  fails_iff : (∃ cause, result = .error cause) ↔
    ∃ sheet ∈ sheets, sheet.columns = [] ∨ ∃ row ∈ sheet.rows, row.length ≠ sheet.columns.length
  error_iff : ∀ cause, result = .error cause ↔ ∃ fault, cause = .sheet fault ∧ FirstFault sheets fault
  pushed : (∀ sheet ∈ sheets, sheet.columns ≠ [] ∧
    ∃ start rows, ReportSheet.Made start ∧ sheet = start.after rows) → ∃ a, result = .ok a

theorem ReportSheet.Made.sound_after {start : ReportSheet} (made : start.Made)
    (rows : List (List Value)) (headed : (start.after rows).columns ≠ []) :
    (start.after rows).Sound := by
  refine ⟨headed, ?_⟩
  rw [after_eq, made.rows_eq, List.nil_append]
  intro row member
  exact of_decide_eq_true (List.mem_filter.mp member).2

theorem Outcome.stopsAtFirstFault {α : Type} {refusable : Prop} {result : Except ExportError α}
    (outcome : Outcome refusable (∀ sheet ∈ sheets, sheet.Sound) (FirstFault sheets) result)
    (unrefused : ∀ cause, result ≠ .error (.refused cause)) : StopsAtFirstFault sheets result := by
  cases outcome with
  | refused cause => exact absurd rfl (unrefused cause)
  | written a sound =>
    refine ⟨⟨nofun, ?_⟩, fun cause => ⟨nofun, ?_⟩, fun _ => ⟨a, rfl⟩⟩
    · rintro ⟨sheet, member, fault⟩
      exact absurd (sound sheet member) (ReportSheet.not_sound_iff.mpr fault)
    · rintro ⟨fault, -, k, sheet, first, -⟩
      exact absurd (sound sheet first.mem) first.bad
  | faulty fault found =>
    obtain ⟨k, sheet, first, -⟩ := id found
    refine ⟨⟨fun _ => ?_, fun _ => ⟨_, rfl⟩⟩, fun cause => ⟨?_, ?_⟩, fun filled => ?_⟩
    · exact ⟨sheet, first.mem, ReportSheet.not_sound_iff.mp first.bad⟩
    · rintro ⟨⟩
      exact ⟨fault, rfl, found⟩
    · rintro ⟨other, rfl, found'⟩
      rw [found.unique found']
    -- The pushes have left out every row of another width, so a sheet with columns has no fault.
    · obtain ⟨headed, start, rows, made, rfl⟩ := filled sheet first.mem
      exact absurd (made.sound_after rows headed) first.bad

/-- The width of rows is checked where they are pushed and where they are written.

* After any pushes a row is taken just when it has one value for each column. One that is not taken
  leaves the sheet as it is, and the answer counts the rows that were taken before.
* With rules that take whatever the sheets write, or in an export that nothing refused, the first fault
  stops the writing and nothing else does.
* Where the widths of columns are computed, every row has a value in every column. -/
theorem row_widths_are_checked :
    (∀ start : ReportSheet, start.Made → ∀ rows row,
      let accepted := rows.filter (·.length = start.columns.length)
      let sheet := start.after rows
      let push := (ReportSheet.pushRow row).run sheet
      sheet = { start with rows := accepted } ∧
      (push.1 = .ok () ↔ row.length = start.columns.length) ∧
      (row.length = start.columns.length → push.2 = { start with rows := accepted ++ [row] }) ∧
      (row.length ≠ start.columns.length →
        push = (.error (.rowWidth accepted.length start.columns.length row.length), sheet))) ∧
    (∀ rules sheets, (∀ sheet ∈ sheets, rules.Takes sheet) →
      StopsAtFirstFault sheets (buildWorkbook rules sheets).result) ∧
    (∀ rules destination sheets,
      (∀ cause, (exportSheets rules destination sheets).value ≠ .error (.refused cause)) →
        StopsAtFirstFault sheets (exportSheets rules destination sheets).value) ∧
    ∀ rules (sheet : ReportSheet) cells, (sheet.writeRows rules 0 sheet.rows).result = .ok cells →
      ∀ row ∈ sheet.rows, ∀ c < sheet.columns.length, ∃ value, row[c]? = some value := by
  refine ⟨?_, ?_, ?_, ?_⟩
  · intro start made rows row accepted sheet push
    have filled : sheet = { start with rows := accepted } := by
      rw [← List.nil_append accepted, ← made.rows_eq]
      exact ReportSheet.after_eq start rows
    have columns : sheet.columns = start.columns := by rw [filled]
    refine ⟨filled, ?_, ?_, ?_⟩
    · rw [← columns]
      exact ReportSheet.pushRow_ok_iff
    · intro fits
      rw [← columns] at fits
      have pushed : push = _ := ReportSheet.pushRow_of_fits fits
      rw [pushed, filled]
    · intro differs
      rw [← columns] at differs
      have pushed : push = _ := ReportSheet.pushRow_of_differs differs
      rw [pushed, columns, filled]
  · intro rules sheets taken
    have outcome := buildWorkbook_outcome rules sheets
    refine outcome.stopsAtFirstFault fun cause refused => ?_
    rw [refused] at outcome
    cases outcome with
    | refused _ possible => exact possible taken
  · intro rules destination sheets unrefused
    exact (exportSheets_outcome rules destination sheets).stopsAtFirstFault unrefused
  · intro rules sheet cells written row member c inside
    obtain ⟨fit, -, -⟩ := ReportSheet.writeRows_eq_ok_iff.mp written
    have within : c < row.length := by
      rw [fit row member]
      exact inside
    exact ⟨row[c], List.getElem?_eq_getElem within⟩

/-- Three pushes of which the second is refused, an export of what they leave, and one that stops at a
sheet without columns before it comes to a row of another width. -/
theorem row_widths_are_checked_orders :
    let columns : List ExportColumn := [⟨"Region", .text, ""⟩, ⟨"Amount", .numeric, "#,##0.00"⟩]
    let start := ReportSheet.new "Orders" columns
    let north : List Value := [.text "North", .integer 12]
    let south : List Value := [.empty, .number 0.5]
    let sheet := start.after [north, [.integer 7], south]
    let several := [sheet, .new "Bare" [], ⟨"Ragged", columns, [south, [.integer 7]]⟩]
    start.Made ∧ sheet.rows = [north, south] ∧
      (ReportSheet.pushRow [.integer 7]).run sheet = (.error (.rowWidth 2 2 1), sheet) ∧
      SheetRules.Takes .workbook sheet ∧
      (∃ workbook, (buildWorkbook .workbook [sheet]).result = .ok workbook) ∧
      (∃ cells, (sheet.writeRows .workbook 0 sheet.rows).result = .ok cells ∧
        ∃ value, south[1]? = some value) ∧
      (exportSheets .workbook .memory several).value = .error (.sheet (.noColumns "Bare")) ∧
      FirstFault several (.noColumns "Bare") := by
  intro columns start north south sheet several
  have made : start.Made := .new _ _
  obtain ⟨push_law, built, exported, wide⟩ := row_widths_are_checked
  obtain ⟨filled, -, -, refused⟩ := push_law start made [north, [.integer 7], south] [.integer 7]
  have rows : sheet.rows = [north, south] := congrArg ReportSheet.rows filled
  have written : (sheet.write .workbook).result = .ok ⟨sheet.name, sheet.cellWrites, sheet.widths⟩ := by
    rw [show sheet = _ from filled]
    apply ReportSheet.write_workbook
    · exact List.cons_ne_nil _ _
    · simp [start, ReportSheet.new, checkSheetName, longestSheetName, forbiddenInSheetName,
        apostrophe]
    · show 2 ≤ gridColumns
      decide
    · show 2 < gridRows
      decide
    · simp [start, ReportSheet.new]
    · have headers : "Region".length ≤ longestText ∧ "Amount".length ≤ longestText := by decide
      simp [start, ReportSheet.new, columns, headers]
    · have text : "North".length ≤ longestText := by decide
      simp [start, ReportSheet.new, columns, north, south, text]
  obtain ⟨-, named, fit, cells, widths, -⟩ := ReportSheet.write_eq_ok_iff.mp written
  have takes : SheetRules.Takes .workbook sheet := ⟨named, cells, widths⟩
  have rows_written : ∃ cells, (sheet.writeRows .workbook 0 sheet.rows).result = .ok cells := by
    refine ⟨_, ReportSheet.writeRows_eq_ok_iff.mpr ⟨fit, fun write issued => ?_, rfl⟩⟩
    apply cells
    rw [ReportSheet.cellWrites, List.flatten_cons, List.mem_append]
    simpa using Or.inr issued
  have stopped : (exportSheets .workbook .memory several).value =
      .error (.sheet (.noColumns "Bare")) := by
    change (buildWorkbook .workbook several >>= finishWorkbook).result = _
    simp only [buildWorkbook, several, List.mapM_cons, Export.result_bind, written]
    rfl
  refine ⟨made, rows, refused (by decide), takes, ?_, ?_, stopped, ?_⟩
  · have only_sheet : ∀ other ∈ [sheet], SheetRules.Takes .workbook other := by
      simpa using takes
    apply (built .workbook [sheet] only_sheet).pushed
    intro other member
    obtain rfl := List.mem_singleton.mp member
    exact ⟨List.cons_ne_nil _ _, start, _, made, rfl⟩
  · obtain ⟨cells, done⟩ := rows_written
    refine ⟨cells, done, wide .workbook sheet cells done south ?_ 1 (by decide)⟩
    rw [rows]
    exact List.mem_cons_of_mem _ List.mem_cons_self
  · have unrefused (cause : WriteRefusal) :
        (exportSheets .workbook .memory several).value ≠ .error (.refused cause) := by
      intro refused
      rw [stopped] at refused
      cases refused
    have laws := exported .workbook .memory several unrefused
    obtain ⟨fault, named, first⟩ := (laws.error_iff _).mp stopped
    cases named
    exact first

end ReportColumns
