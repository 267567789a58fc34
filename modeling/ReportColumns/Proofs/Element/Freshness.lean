import ReportColumns.Proofs.Catalog
import ReportColumns.Proofs.Element.Edited
/-!
Fresh elements: the reference has been looked up and the policy follows from the settings and the
entry. Construction gives fresh elements and every edit of a fresh element gives one. Only an edit that
resolves fills the cell anew or logs a line about the catalogs.
-/

namespace ReportColumns

def Logged.linesOn (logged : Logged α) (topic : LogTopic) : List LogLine :=
  logged.lines.filter (·.topic == topic)

theorem chartFormat_linesOn_catalog (format : String) (classification : Classification)
    (locale : Locale) : (chartFormat format classification locale).linesOn .catalog = [] := by
  unfold chartFormat
  cases classification with
  | numeric => cases numericEquivalent? format <;> rfl
  | _ => rfl

theorem dialectFormats_linesOn_catalog (format : String) (classification : Classification)
    (locale : Locale) : (dialectFormats format classification locale).linesOn .catalog = [] := by
  have chart := chartFormat_linesOn_catalog format classification locale
  simpa [dialectFormats, Logged.linesOn] using chart

theorem formatValueOrDefault_linesOn_catalog (value : Value) (format : String) (locale : Locale) :
    (formatValueOrDefault value format locale).linesOn .catalog = [] := by
  unfold formatValueOrDefault
  cases formatValue value format locale <;> rfl

end ReportColumns

namespace ReportColumns.Element

variable {catalogs : CatalogStore} {e : Element}

/-- The reference has been looked up, and the stored policy is the one that follows from it and from
the settings. -/
structure Fresh (e : Element) : Prop where
  settled : e.Settled
  policy_derived : e.policy = .derive e.policyInputs

instance (e : Element) : Decidable e.Fresh :=
  decidable_of_iff (e.Settled ∧ e.policy = .derive e.policyInputs)
    ⟨fun ⟨settled, derived⟩ => ⟨settled, derived⟩, fun ⟨settled, derived⟩ => ⟨settled, derived⟩⟩

theorem refreshed_is_fresh (settled : e.Settled) : e.refreshed.Fresh := ⟨settled, rfl⟩

theorem relooked_is_fresh (catalogs : CatalogStore) (e : Element) :
    (e.relooked catalogs).value.Fresh :=
  refreshed_is_fresh rfl

/-- Every edit leaves a fresh element: where a policy input changes, the policy is derived last. -/
theorem edited_is_fresh (fresh : e.Fresh) (edit : Edit) :
    (e.edited catalogs edit).value.Fresh := by
  cases edit with
  | changeColumn | setSource | invalidate => exact relooked_is_fresh ..
  | calculation calculation =>
    unfold edited withCalculation
    dsimp only
    split
    · exact refreshed_is_fresh fresh.settled
    · split <;> exact refreshed_is_fresh fresh.settled
  | refreshPolicy | setDefaults | columnType | format | numericPreset | datePreset | placement
  | aggregate | showTotal | serieRole | pointSortKey => exact refreshed_is_fresh fresh.settled
  -- The other settings are no inputs of the policy.
  | _ => exact ⟨fresh.settled, fresh.policy_derived⟩

theorem edited_keeps_cell (edit : Edit) (keeps : edit.resolves = false) :
    (e.edited catalogs edit).value.cell = e.cell := by
  cases edit with
  | changeColumn | setSource | invalidate => cases keeps
  | calculation calculation =>
    obtain ⟨_, _, _, step⟩ := e.withCalculation_frame calculation
    rw [edited, step]
  | _ => rfl

theorem applyAll_of_fresh (fresh : e.Fresh) (edits : List Edit) :
    (e.applyAll catalogs edits).value =
      edits.foldl (fun e edit => (e.edited catalogs edit).value) e := by
  induction edits generalizing e with
  | nil => rfl
  | cons first rest ih =>
    have step : (e.applyAll catalogs (first :: rest)).value =
        ((e.apply catalogs first).value.applyAll catalogs rest).value := by
      simp only [applyAll, List.foldlM_cons, Logged.value_bind]
    rw [step, apply_of_settled first fresh.settled, ih (edited_is_fresh fresh first)]
    rfl

theorem lookUp_without_column (empty : e.columnId = "") : e.lookUp catalogs = pure none := by
  simp [lookUp, tryColumn, empty]

theorem create_eq_relooked (catalogs : CatalogStore) (id : String) :
    create id = ({ bare with id }.relooked catalogs).value := by
  have found : { bare with id }.lookUp catalogs = pure none := lookUp_without_column rfl
  rw [relooked, found]
  rfl

theorem blank_eq_relooked (catalogs : CatalogStore) : blank = (bare.relooked catalogs).value :=
  create_eq_relooked catalogs ""

theorem forColumn_eq_relooked (catalogs : CatalogStore) (id : String) (source : CatalogSource)
    (columnId : String) :
    forColumn catalogs id source columnId =
      { bare with id, source := some source, columnId }.relooked catalogs := by
  simp only [forColumn, after, Access.invalidate_apply]
  simp [Bind.bind, Logged.andThen, Pure.pure, Logged.silent]
  rfl

theorem lookUp_value (catalogs : CatalogStore) (e : Element) :
    (e.lookUp catalogs).value = (e.tryColumn catalogs).toOption := by
  unfold lookUp
  cases e.tryColumn catalogs with
  | ok entry => rfl
  | error cause => cases cause <;> rfl

theorem relooked_cell (catalogs : CatalogStore) (e : Element) :
    (e.relooked catalogs).value.cell = some (e.tryColumn catalogs).toOption :=
  congrArg some (lookUp_value catalogs e)

def missing? (catalogs : CatalogStore) (e : Element) : Option CatalogError :=
  match e.tryColumn catalogs with
  | .ok _ => none
  | .error cause => if e.columnId.isEmpty then none else some cause

theorem lookUp_lines (catalogs : CatalogStore) (e : Element) :
    (e.lookUp catalogs).lines = (e.missing? catalogs).toList.map e.missingColumnLine := by
  unfold lookUp missing? tryColumn
  cases e.columnId.isEmpty with
  | true => rfl
  | false =>
    simp only [Bool.false_eq_true, if_false]
    cases e.source with
    | none => rfl
    | some source =>
      dsimp only
      cases found : catalogs.lookup source e.columnId with
      | ok entry => rfl
      | error cause =>
        obtain rfl := CatalogStore.lookup_error found
        rfl

theorem answer_logs_no_catalog_line (query : Query) (e : Element) :
    (query.answer e).linesOn .catalog = [] := by
  cases query with
  | chartFormat locale => exact chartFormat_linesOn_catalog ..
  | dialectFormats locale => exact dialectFormats_linesOn_catalog ..
  | displayValue value locale =>
    unfold Query.answer displayValue
    dsimp only
    split
    · exact formatValueOrDefault_linesOn_catalog ..
    · rfl
  | _ => rfl

theorem relooked_linesOn_catalog (catalogs : CatalogStore) (e : Element) :
    (e.relooked catalogs).linesOn .catalog =
      (e.missing? catalogs).toList.map e.missingColumnLine := by
  change (e.lookUp catalogs).linesOn .catalog = _
  rw [Logged.linesOn, lookUp_lines]
  cases e.missing? catalogs <;> rfl

theorem edited_logs_no_catalog_line (edit : Edit) (keeps : edit.resolves = false) :
    (e.edited catalogs edit).linesOn .catalog = [] := by
  cases edit with
  | changeColumn | setSource | invalidate => cases keeps
  | calculation calculation =>
    unfold edited withCalculation
    dsimp only
    split
    · rfl
    · split <;> rfl
  | _ => rfl

end ReportColumns.Element
