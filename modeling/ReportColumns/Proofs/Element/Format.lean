import ReportColumns.Proofs.Element.Freshness
/-!
The format in effect and the text it comes from.

Numbers, dates and texts share one format text. The selector of the kind of values decides whether that
text counts or the catalog's format does. A few edits write the shared text, each with a text of its
own, and only these can select a preset.
-/

namespace ReportColumns.Element

variable {catalogs : CatalogStore} {e : Element} {kind : Classification} {token : String}

def presetToken? (e : Element) : Classification → Option String
  | .numeric => e.numericPreset.token?
  | .dateTime => e.datePreset.token?
  | .text | .enumerated => none

/-- Whether the selector for the values' own kind stands for the catalog's format. -/
def followsCatalog (e : Element) : Bool :=
  match e.formatClassification with
  | .numeric => e.numericPreset == .default
  | .dateTime => e.datePreset == .default
  | .text | .enumerated => false

/-- The format in effect when no format text counts. -/
def standInFormat (e : Element) : String :=
  if e.catalogFormat.isEmpty then fallbackFormat else e.catalogFormat

/-- The text that an edit writes into the shared format. -/
def writtenFormat? (e : Element) : Edit → Option String
  | .format format => some format
  | .numericPreset preset => preset.token?
  | .datePreset preset => preset.token?
  | .calculation calculation =>
    if calculation != .no && e.format.isEmpty then NumericPreset.percentage0.token?
    else if calculation == .no && e.numericPreset != .custom then some ""
    else none
  | _ => none

theorem presetToken_not_empty (selected : e.presetToken? kind = some token) : token ≠ "" := by
  cases kind with
  | numeric =>
    have set : e.numericPreset.token? = some token := selected
    cases preset : e.numericPreset <;> rw [preset] at set <;> cases set <;> decide
  | dateTime =>
    have set : e.datePreset.token? = some token := selected
    cases preset : e.datePreset <;> rw [preset] at set <;> cases set <;> decide
  | text | enumerated => cases selected

theorem resolvedType_ne_default (e : Element) : e.resolvedType ≠ .default := by
  unfold resolvedType
  split
  · rename_i overridden
    simpa using overridden
  · cases e.entry.map CatalogEntry.columnType with
    | none => decide
    | some declared => cases declared <;> decide

theorem formatClassification_cases (e : Element) :
    (e.formatClassification = .numeric ∧ e.isNumeric = true ∧ e.isDateTime = false ∧
      e.isText = false) ∨
    (e.formatClassification = .dateTime ∧ e.isNumeric = false ∧ e.isDateTime = true ∧
      e.isText = false) ∨
    (e.formatClassification = .text ∧ e.isNumeric = false ∧ e.isDateTime = false ∧
      e.isText = true) := by
  unfold formatClassification isNumeric isDateTime isText
  cases e.countsRows with
  | true => simp
  | false =>
    cases resolved : e.resolvedType with
    | default => exact absurd resolved e.resolvedType_ne_default
    | numeric | text | dateTime => simp

theorem isNumeric_iff : e.isNumeric = true ↔ e.formatClassification = .numeric := by
  rcases e.formatClassification_cases with h | h | h <;> simp [h]

theorem isDateTime_iff : e.isDateTime = true ↔ e.formatClassification = .dateTime := by
  rcases e.formatClassification_cases with h | h | h <;> simp [h]

theorem followsCatalog_of_numeric (numeric : e.isNumeric = true) :
    e.followsCatalog = decide (e.numericPreset = .default) := by
  unfold followsCatalog
  rw [isNumeric_iff.mp numeric]
  rfl

theorem followsCatalog_of_date (date : e.isDateTime = true) :
    e.followsCatalog = decide (e.datePreset = .default) := by
  unfold followsCatalog
  rw [isDateTime_iff.mp date]
  rfl

/-- The format text counts unless it is empty or the catalog's format is meant. -/
theorem effectiveFormat_eq (e : Element) :
    e.effectiveFormat =
      if e.followsCatalog || e.format.isEmpty then e.standInFormat else e.format := by
  have chosen : e.chosenFormat =
      if e.followsCatalog || e.format.isEmpty then e.catalogFormat else e.format := by
    unfold chosenFormat followsCatalog
    rcases e.formatClassification_cases with h | h | h
    · cases e.numericPreset == .default <;> cases e.format.isEmpty <;> simp [h]
    · cases e.datePreset == .default <;> cases e.format.isEmpty <;> simp [h]
    · cases e.format.isEmpty <;> simp [h]
  unfold effectiveFormat standInFormat
  rw [chosen]
  cases counts : e.followsCatalog || e.format.isEmpty with
  | true => rfl
  | false =>
    have given : e.format.isEmpty = false := (Bool.or_eq_false_iff.mp counts).2
    simp [given]

theorem effectiveFormat_of_preset (selected : e.presetToken? e.formatClassification = some token) :
    e.effectiveFormat = if e.format.isEmpty then e.standInFormat else e.format := by
  have own : e.followsCatalog = false := by
    unfold followsCatalog
    cases same : e.formatClassification with
    | numeric =>
      rw [same] at selected
      refine beq_eq_false_iff_ne.mpr fun unset => ?_
      simp [presetToken?, unset, NumericPreset.token?] at selected
    | dateTime =>
      rw [same] at selected
      refine beq_eq_false_iff_ne.mpr fun unset => ?_
      simp [presetToken?, unset, DatePreset.token?] at selected
    | text | enumerated => rfl
  rw [effectiveFormat_eq, own, Bool.false_or]

theorem effectiveFormat_of_empty (empty : e.format = "") :
    e.effectiveFormat = e.standInFormat := by
  rw [effectiveFormat_eq]
  simp [empty]

theorem withCalculation_cases (e : Element) (calculation : Calculation) :
    (calculation ≠ .no ∧ e.format = "" ∧
      e.writtenFormat? (.calculation calculation) = some "P0" ∧
      (e.withCalculation calculation).value =
        refreshed { e with calculation, format := "P0", numericPreset := .percentage0 }) ∨
    (calculation = .no ∧ e.numericPreset ≠ .custom ∧
      e.writtenFormat? (.calculation calculation) = some "" ∧
      (e.withCalculation calculation).value =
        refreshed { e with calculation, format := "", numericPreset := .custom }) ∨
    ((calculation ≠ .no → e.format ≠ "") ∧ (calculation = .no → e.numericPreset = .custom) ∧
      e.writtenFormat? (.calculation calculation) = none ∧
      (e.withCalculation calculation).value = refreshed { e with calculation }) := by
  unfold writtenFormat? withCalculation
  by_cases back : calculation = .no
  · by_cases custom : e.numericPreset = .custom
    · right
      right
      simp [back, custom]
    · right
      left
      simp [back, custom]
  · by_cases empty : e.format = ""
    · left
      simp [back, empty, withNumericPreset, NumericPreset.token?]
    · right
      right
      simp [back, empty]

theorem edited_format (edit : Edit) :
    (e.edited catalogs edit).value.format = (e.writtenFormat? edit).getD e.format := by
  cases edit with
  | calculation calculation =>
    rw [edited]
    rcases e.withCalculation_cases calculation with
      ⟨-, -, written, step⟩ | ⟨-, -, written, step⟩ | ⟨-, -, written, step⟩
    all_goals
      rw [step, written]
      rfl
  | _ => rfl

theorem selected_of_not_written {edit : Edit} (quiet : e.writtenFormat? edit = none)
    (selected : (e.edited catalogs edit).value.presetToken? kind = some token) :
    e.presetToken? kind = some token := by
  cases edit with
  | format format => cases quiet
  | numericPreset preset =>
    cases kind with
    | numeric =>
      have unset : preset.token? = none := quiet
      have set : preset.token? = some token := selected
      rw [unset] at set
      cases set
    | dateTime | text | enumerated => exact selected
  | datePreset preset =>
    cases kind with
    | dateTime =>
      have unset : preset.token? = none := quiet
      have set : preset.token? = some token := selected
      rw [unset] at set
      cases set
    | numeric | text | enumerated => exact selected
  | calculation calculation =>
    rw [edited] at selected
    rcases e.withCalculation_cases calculation with
      ⟨-, -, written, -⟩ | ⟨-, -, written, -⟩ | ⟨-, -, -, step⟩
    · cases written.symm.trans quiet
    · cases written.symm.trans quiet
    · rw [step] at selected
      exact selected
  | _ => exact selected

end ReportColumns.Element
