import ReportColumns.Proofs.Element.Format
/-!
Elements that are changed through an editor.

An editor may always move an element to another place or column. Any other setting it changes only while
the policy of the element shows the property as editable; such a request is refused otherwise and changes
nothing. A run of requests is followed with the last text that it wrote into the format and the kind of
values that the element had when it did so: a preset is in effect exactly as long as that text is its own.
-/

namespace ReportColumns

structure EditRequest where
  catalogs : CatalogStore
  edit : Edit
  deriving DecidableEq, Repr

structure FormatWrite where
  kind : Classification
  text : String
  deriving DecidableEq, Repr

namespace Element

/-- Whether an editor offers an edit. -/
def allows (e : Element) (edit : Edit) : Bool :=
  match edit with
  | .placement _ | .changeColumn _ => true
  | edit => edit.property?.any e.policy.isEditable

def request (e : Element) (asked : EditRequest) : Element :=
  if e.allows asked.edit then (e.apply asked.catalogs asked.edit).value else e

def requestAll (e : Element) (asked : List EditRequest) : Element := asked.foldl request e

def formatWrite? (e : Element) (asked : EditRequest) : Option FormatWrite :=
  if e.allows asked.edit then
    (e.writtenFormat? asked.edit).map fun text => ⟨e.formatClassification, text⟩
  else none

/-- The last text that a run of requests writes into the format. -/
def lastFormatWrite? (e : Element) : List EditRequest → Option FormatWrite
  | [] => none
  | first :: rest => ((e.request first).lastFormatWrite? rest).or (e.formatWrite? first)

variable {catalogs : CatalogStore} {e : Element} {edit : Edit} {kind : Classification}
  {text token : String}

theorem isEditable_of_fresh (fresh : e.Fresh) (property : ElementProperty) :
    e.policy.isEditable property = (e.policyInputs.state property).isEditable := by
  rw [EditorPolicy.isEditable, fresh.policy_derived, EditorPolicy.state_derive]

theorem browsable_of_editable (fresh : e.Fresh) {property : ElementProperty}
    (offered : e.policy.isEditable property = true) :
    (e.policyInputs.state property).browsable = true := by
  rw [isEditable_of_fresh fresh] at offered
  exact (Bool.and_eq_true_iff.mp offered).1

theorem selector_custom_of_allows_format (fresh : e.Fresh) {format : String}
    (allowed : e.allows (.format format) = true) :
    (e.isNumeric = true → e.numericPreset = .custom) ∧
      (e.isDateTime = true → e.datePreset = .custom) := by
  have offered : e.policy.isEditable .format = true := allowed
  rw [isEditable_of_fresh fresh] at offered
  have writable : (!e.policyInputs.locksFormat) = true := (Bool.and_eq_true_iff.mp offered).2
  have unlocked : e.policyInputs.locksFormat = false := by simpa using writable
  obtain ⟨numeric, date⟩ := Bool.or_eq_false_iff.mp unlocked
  constructor
  · intro shown
    simpa [policyInputs, shown] using numeric
  · intro shown
    simpa [policyInputs, shown] using date

theorem unselected_of_format (fresh : e.Fresh) {format : String}
    (allowed : e.allows (.format format) = true) :
    (e.withFormat format).presetToken? e.formatClassification = none := by
  obtain ⟨numeric, date⟩ := selector_custom_of_allows_format fresh allowed
  rcases e.formatClassification_cases with h | h | h
  · have custom := numeric h.2.1
    rw [h.1]
    simp [presetToken?, withFormat, refreshed, custom, NumericPreset.token?]
  · have custom := date h.2.2.1
    rw [h.1]
    simp [presetToken?, withFormat, refreshed, custom, DatePreset.token?]
  · rw [h.1]
    rfl

theorem written_of_selected (fresh : e.Fresh) (allowed : e.allows edit = true)
    (written : e.writtenFormat? edit = some text)
    (selected : (e.edited catalogs edit).value.presetToken? e.formatClassification = some token) :
    text = token := by
  cases edit with
  | format format =>
    -- A text can only be typed while the selector of the kind stands at custom.
    have unset := unselected_of_format fresh allowed
    have set : (e.withFormat format).presetToken? e.formatClassification = some token := selected
    rw [unset] at set
    cases set
  | numericPreset preset =>
    have offered : e.policy.isEditable .numericPreset = true := allowed
    have shown : e.isNumeric = true :=
      (Bool.and_eq_true_iff.mp (browsable_of_editable fresh offered)).2
    rw [isNumeric_iff.mp shown] at selected
    exact Option.some.inj (written.symm.trans selected)
  | datePreset preset =>
    have offered : e.policy.isEditable .datePreset = true := allowed
    have shown : e.isDateTime = true :=
      (Bool.and_eq_true_iff.mp (browsable_of_editable fresh offered)).2
    rw [isDateTime_iff.mp shown] at selected
    exact Option.some.inj (written.symm.trans selected)
  | calculation calculation =>
    have offered : e.policy.isEditable .calculation = true := allowed
    have shown : e.isNumeric = true :=
      (Bool.and_eq_true_iff.mp (browsable_of_editable fresh offered)).2
    rw [isNumeric_iff.mp shown] at selected
    rw [edited] at selected
    rcases e.withCalculation_cases calculation with
      ⟨-, -, percentage, step⟩ | ⟨-, -, -, step⟩ | ⟨-, -, quiet, -⟩
    · rw [step] at selected
      cases percentage.symm.trans written
      cases selected
      rfl
    · rw [step] at selected
      cases selected
    · cases quiet.symm.trans written
  | _ => cases written

/-- What is known of an element and the last text written into its format. -/
structure Accounted (e : Element) (last : Option FormatWrite) : Prop where
  fresh : e.Fresh
  /-- The format is the text written last, and empty before any was. -/
  format_written : e.format = (last.map FormatWrite.text).getD ""
  /-- A preset that is selected for the kind of values for which the last text was written is the one
  that wrote it. No preset is selected without a text being written. -/
  selected_written : ∀ kind token, e.presetToken? kind = some token →
    ∃ write, last = some write ∧ (write.kind = kind → write.text = token)

theorem Accounted.edited {last : Option FormatWrite} (accounted : e.Accounted last)
    (allowed : e.allows edit = true) :
    (e.edited catalogs edit).value.Accounted
      (((e.writtenFormat? edit).map (⟨e.formatClassification, ·⟩)).or last) := by
  have fresh : (e.edited catalogs edit).value.Fresh := edited_is_fresh accounted.fresh edit
  cases written : e.writtenFormat? edit with
  | none =>
    refine ⟨fresh, ?_, ?_⟩
    · rw [edited_format, written]
      exact accounted.format_written
    · intro kind token selected
      exact accounted.selected_written kind token (selected_of_not_written written selected)
  | some text =>
    refine ⟨fresh, ?_, ?_⟩
    · rw [edited_format, written]
      rfl
    · intro kind token selected
      refine ⟨⟨e.formatClassification, text⟩, rfl, fun same => ?_⟩
      rw [← same] at selected
      exact written_of_selected accounted.fresh allowed written selected

theorem Accounted.request {last : Option FormatWrite} (accounted : e.Accounted last)
    (asked : EditRequest) : (e.request asked).Accounted ((e.formatWrite? asked).or last) := by
  unfold Element.request formatWrite?
  cases allowed : e.allows asked.edit with
  | true =>
    rw [if_pos rfl, if_pos rfl, apply_of_settled asked.edit accounted.fresh.settled]
    exact accounted.edited allowed
  | false => exact accounted

theorem Accounted.requestAll {last : Option FormatWrite} (accounted : e.Accounted last)
    (asked : List EditRequest) :
    (e.requestAll asked).Accounted ((e.lastFormatWrite? asked).or last) := by
  induction asked generalizing e last with
  | nil => exact accounted
  | cons first rest ih =>
    have next := ih (accounted.request first)
    rw [lastFormatWrite?, Option.or_assoc]
    exact next

theorem forColumn_accounted (catalogs : CatalogStore) (id : String) (source : CatalogSource)
    (columnId : String) : (forColumn catalogs id source columnId).value.Accounted none := by
  rw [forColumn_eq_relooked]
  refine ⟨relooked_is_fresh .., rfl, ?_⟩
  intro kind token selected
  cases kind <;> cases selected

/-- An element made for a column and changed through an editor, whatever happens to the catalogs
meanwhile: when the selector for its kind of values is set to a preset, some text was written into the
format.

* If the values were of the same kind when the last text was written, the preset is in effect.
* In general it is in effect just when that text is its own, or is empty while the format that stands in
  for none is its own. -/
theorem preset_decides_by_last_write (catalogs : CatalogStore) (id : String)
    (source : CatalogSource) (columnId : String) (asked : List EditRequest) :
    let made := (forColumn catalogs id source columnId).value
    let e := made.requestAll asked
    ∀ kind token, e.formatClassification = kind → e.presetToken? kind = some token →
      ∃ write, made.lastFormatWrite? asked = some write ∧
        (write.kind = kind → e.effectiveFormat = token) ∧
        (e.effectiveFormat = token ↔
          write.text = token ∨ (write.text = "" ∧ e.standInFormat = token)) := by
  intro made e kind token shown selected
  have accounted : e.Accounted (made.lastFormatWrite? asked) := by
    have run := (forColumn_accounted catalogs id source columnId).requestAll asked
    rwa [Option.or_none] at run
  obtain ⟨write, last, own⟩ := accounted.selected_written kind token selected
  have given : token ≠ "" := presetToken_not_empty selected
  have written : e.format = write.text := by
    rw [accounted.format_written, last]
    rfl
  have effect : e.effectiveFormat = if write.text.isEmpty then e.standInFormat else write.text := by
    rw [← written]
    exact effectiveFormat_of_preset (shown ▸ selected)
  refine ⟨write, last, ?_, ?_⟩
  · intro same
    rw [effect, own same]
    simp [given]
  · rw [effect]
    by_cases empty : write.text = ""
    · simp [empty, given.symm]
    · simp [empty]

theorem preset_decides_after_selection :
    let column : CatalogEntry :=
      ⟨"amount", "orders.amount", "Amount", .numeric, "N0", false, none, none⟩
    let catalogs : CatalogStore := ⟨[("main", ⟨[column], false⟩)]⟩
    let made := (forColumn catalogs "1" ⟨"main", false⟩ "amount").value
    let edits : List Edit :=
      [.numericPreset .numeric2, .columnType .dateTime, .datePreset .shortDate,
        .columnType .numeric, .numericPreset .currency1, .placement .data,
        .calculation .percentageOfRow]
    let e := made.requestAll (edits.map fun edit => ⟨catalogs, edit⟩)
    e.formatClassification = .numeric ∧ e.presetToken? .numeric = some "C1" ∧
      e.effectiveFormat = "C1" := by
  intro column catalogs made edits e
  have shown : e.formatClassification = .numeric := by decide +kernel
  have selected : e.presetToken? .numeric = some "C1" := by decide +kernel
  have last : made.lastFormatWrite? (edits.map fun edit => ⟨catalogs, edit⟩) =
      some ⟨.numeric, "C1"⟩ := by
    decide +kernel
  obtain ⟨write, written, decides, -⟩ :=
    preset_decides_by_last_write catalogs "1" ⟨"main", false⟩ "amount"
      (edits.map fun edit => ⟨catalogs, edit⟩) .numeric "C1" shown selected
  have same : write = ⟨.numeric, "C1"⟩ := Option.some.inj (written.symm.trans last)
  exact ⟨shown, selected, decides (by rw [same])⟩

/-- A numeric preset that is selected and shown by the editor, while the format in effect is the one of a
date preset. All edits were offered. -/
theorem preset_overwritten_from_other_kind :
    let column : CatalogEntry :=
      ⟨"amount", "orders.amount", "Amount", .numeric, "N0", false, none, none⟩
    let catalogs : CatalogStore := ⟨[("main", ⟨[column], false⟩)]⟩
    let made := (forColumn catalogs "1" ⟨"main", false⟩ "amount").value
    let edits : List Edit :=
      [.numericPreset .numeric2, .columnType .dateTime, .datePreset .shortDate,
        .columnType .numeric]
    let e := made.requestAll (edits.map fun edit => ⟨catalogs, edit⟩)
    e = (made.applyAll catalogs edits).value ∧ e.isNumeric = true ∧
      e.numericPreset.token? = some "N2" ∧ e.effectiveFormat = "d" ∧ "d" ≠ "N2" := by
  decide +kernel

end Element

end ReportColumns
