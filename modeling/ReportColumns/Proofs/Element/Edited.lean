import ReportColumns.Element.Edit
import ReportColumns.Proofs.Element.Access
/-!
What every edit makes of a settled element, in one step. An edit that resolves looks the reference up
once; no other edit looks at the catalogs.
-/

namespace ReportColumns.Element

variable {catalogs : CatalogStore} {e : Element}

def relooked (catalogs : CatalogStore) (e : Element) : Logged Element :=
  ⟨refreshed { e with cell := some (e.lookUp catalogs).value }, (e.lookUp catalogs).lines⟩

def withDisplayName (e : Element) (name : String) : Element :=
  { e with nameOverride := if e.entry.isSome && name == e.derivedName then "" else name }

def withFormat (e : Element) (format : String) : Element :=
  let given := !format.isEmpty
  refreshed { e with
    format
    numericPreset :=
      if given && e.isNumeric && e.numericPreset == .default then .custom else e.numericPreset
    datePreset :=
      if given && e.isDateTime && e.datePreset == .default then .custom else e.datePreset }

def withNumericPreset (e : Element) (preset : NumericPreset) : Element :=
  refreshed { e with numericPreset := preset, format := preset.token?.getD e.format }

def withDatePreset (e : Element) (preset : DatePreset) : Element :=
  refreshed { e with datePreset := preset, format := preset.token?.getD e.format }

def withCalculation (e : Element) (calculation : Calculation) : Logged Element :=
  let changed := { e with calculation }
  if calculation != .no && e.format.isEmpty then
    let word := Vocabulary.word calculation
    ⟨changed.withNumericPreset .percentage0,
      [⟨.debug, .element, s!"element {e.id}: {word} selects percentage format"⟩]⟩
  else if calculation == .no && e.numericPreset != .custom then
    ⟨refreshed { changed with format := "", numericPreset := .custom },
      [⟨.debug, .element, s!"element {e.id}: calculation reset clears format"⟩]⟩
  else pure changed.refreshed

theorem withCalculation_frame (e : Element) (calculation : Calculation) :
    ∃ format numericPreset policy, (e.withCalculation calculation).value =
      { e with calculation, format, numericPreset, policy } := by
  unfold withCalculation
  dsimp only
  split
  · exact ⟨_, _, _, rfl⟩
  · split <;> exact ⟨_, _, _, rfl⟩

def edited (catalogs : CatalogStore) (e : Element) : Edit → Logged Element
  | .changeColumn columnId => { e with columnId }.relooked catalogs
  | .setSource source => { e with source := some source }.relooked catalogs
  | .invalidate => e.relooked catalogs
  | .refreshPolicy => pure e.refreshed
  | .setDefaults => pure { e with aggregate := e.defaultAggregate }.refreshed
  | .displayName name => pure (e.withDisplayName name)
  | .columnType columnType => pure { e with columnType }.refreshed
  | .format format => pure (e.withFormat format)
  | .numericPreset preset => pure (e.withNumericPreset preset)
  | .datePreset preset => pure (e.withDatePreset preset)
  | .sortOrder sortOrder => pure { e with sortOrder }
  | .hasHtmlTags htmlTagsOverride => pure { e with htmlTagsOverride }
  | .placement placement => pure { e with placement }.refreshed
  | .aggregate aggregate => pure { e with aggregate }.refreshed
  | .calculation calculation => e.withCalculation calculation
  | .showTotal showTotal => pure { e with showTotal }.refreshed
  | .totalAggregate totalAggregate => pure { e with totalAggregate }
  | .serieRole serieRole => pure { e with serieRole }.refreshed
  | .serverChart serverChart => pure { e with serverChart }
  | .clientChart clientChart => pure { e with clientChart }
  | .xAxis xAxis => pure { e with xAxis }
  | .yAxis yAxis => pure { e with yAxis }
  | .pointOrder pointOrder => pure { e with pointOrder }
  | .pointSortKey pointSortKey => pure { e with pointSortKey }.refreshed
  | .axisUseValues axisUseValues => pure { e with axisUseValues }
  | .sql sqlOverride => pure { e with sqlOverride }
  | .cellCss cellCss => pure { e with cellCss }
  | .cellScript cellScript => pure { e with cellScript }
  | .drillEnabled drillEnabled => pure { e with drillEnabled }
  | .subReportsEnabled subReportsEnabled => pure { e with subReportsEnabled }

namespace Access

theorem bind_silent {first : Access α} {next : α → Access β} {e₁ : Element} {a : α}
    {result : Logged (β × Element)} (step : first catalogs e = ⟨(a, e₁), []⟩)
    (rest : next a catalogs e₁ = result) : (first >>= next) catalogs e = result := by
  rw [bind_apply, step]
  simp only [rest, List.nil_append]

theorem bind_logging {first : Access α} {next : α → Access β} {e₁ e₂ : Element} {a : α} {b : β}
    {lines : List LogLine} (step : first catalogs e = ⟨(a, e₁), lines⟩)
    (rest : next a catalogs e₁ = ⟨(b, e₂), []⟩) :
    (first >>= next) catalogs e = ⟨(b, e₂), lines⟩ := by
  rw [bind_apply, step]
  simp only [rest, List.append_nil]

theorem change_apply (f : Element → Element) : change f catalogs e = ⟨((), f e), []⟩ := rfl

theorem read_apply (setting : Element → α) : read setting catalogs e = ⟨(setting e, e), []⟩ := rfl

theorem log_apply (level : LogLevel) (topic : LogTopic) (message : String) :
    report (.log level topic message) catalogs e = ⟨((), e), [⟨level, topic, message⟩]⟩ := rfl

theorem refreshPolicy_of_settled (settled : e.Settled) :
    refreshPolicy catalogs e = ⟨((), e.refreshed), []⟩ := by
  rw [refreshPolicy_apply, settle_of_settled settled]
  rfl

theorem change_refresh (f : Element → Element) (settled : (f e).Settled) :
    (change f >>= fun _ => refreshPolicy) catalogs e = ⟨((), (f e).refreshed), []⟩ :=
  bind_silent (change_apply f) (refreshPolicy_of_settled settled)

theorem change_invalidate (f : Element → Element) :
    (change f >>= fun _ => invalidate) catalogs e =
      ⟨((), ((f e).relooked catalogs).value), ((f e).relooked catalogs).lines⟩ :=
  bind_silent (change_apply f) (invalidate_apply catalogs (f e))

theorem isDerivedName_of_settled (name : String) (settled : e.Settled) :
    isDerivedName name catalogs e = ⟨(e.entry.isSome && name == e.derivedName, e), []⟩ := by
  have gives : Gives catalogs e (isDerivedName name)
      (pure (e.entry.isSome && name == e.derivedName)) := by
    refine fetches_column.gives.bind ?_
    cases e.entry.isSome with
    | true => exact (gives_derivedNameIn .identity).bind (gives_pure _)
    | false => exact gives_pure _
  exact gives.of_settled settled

theorem setDisplayName_of_settled (name : String) (settled : e.Settled) :
    setDisplayName name catalogs e = ⟨((), e.withDisplayName name), []⟩ :=
  bind_silent (isDerivedName_of_settled name settled) (change_apply _)

theorem leaveNumericDefault_of_settled (settled : e.Settled) :
    leaveNumericDefault catalogs e =
      ⟨((), { e with numericPreset :=
        if e.isNumeric && e.numericPreset == .default then .custom else e.numericPreset }), []⟩ := by
  refine bind_silent (read_apply _) (bind_silent (gives_isNumeric.of_settled settled) ?_)
  dsimp only [Logged.value_pure]
  cases e.isNumeric && e.numericPreset == .default <;> rfl

theorem leaveDateDefault_of_settled (settled : e.Settled) :
    leaveDateDefault catalogs e =
      ⟨((), { e with datePreset :=
        if e.isDateTime && e.datePreset == .default then .custom else e.datePreset }), []⟩ := by
  refine bind_silent (read_apply _) (bind_silent (gives_isDateTime.of_settled settled) ?_)
  dsimp only [Logged.value_pure]
  cases e.isDateTime && e.datePreset == .default <;> rfl

theorem setFormat_of_settled (format : String) (settled : e.Settled) :
    setFormat format catalogs e = ⟨((), e.withFormat format), []⟩ := by
  refine bind_silent (change_apply _) ?_
  unfold withFormat
  cases format.isEmpty with
  | true => exact refreshPolicy_of_settled settled
  | false =>
    exact bind_silent (leaveNumericDefault_of_settled settled)
      (bind_silent (leaveDateDefault_of_settled settled) (refreshPolicy_of_settled settled))

theorem setDefaults_of_settled (settled : e.Settled) :
    setDefaults catalogs e = ⟨((), { e with aggregate := e.defaultAggregate }.refreshed), []⟩ :=
  bind_silent (gives_defaultAggregate.of_settled settled) (change_refresh _ settled)

theorem setCalculation_of_settled (calculation : Calculation) (settled : e.Settled) :
    setCalculation calculation catalogs e =
      ⟨((), (e.withCalculation calculation).value), (e.withCalculation calculation).lines⟩ := by
  refine bind_silent (change_apply _) (bind_silent (read_apply _) ?_)
  refine bind_silent (read_apply _) (bind_silent (read_apply _) ?_)
  have negated : (e.numericPreset != .custom) = !(e.numericPreset == .custom) := rfl
  unfold withCalculation
  rw [negated]
  dsimp only
  cases calculation != .no && e.format.isEmpty with
  | true =>
    exact bind_logging (log_apply _ _ _)
      (bind_silent (change_refresh _ settled) (refreshPolicy_of_settled settled))
  | false =>
    cases calculation == .no && !(e.numericPreset == .custom) with
    | true => exact bind_logging (log_apply _ _ _) (change_refresh _ settled)
    | false => exact refreshPolicy_of_settled settled

theorem perform_of_settled (edit : Edit) (settled : e.Settled) :
    perform edit catalogs e =
      ⟨((), (e.edited catalogs edit).value), (e.edited catalogs edit).lines⟩ := by
  cases edit with
  | changeColumn columnId => exact change_invalidate _
  | setSource source => exact change_invalidate _
  | invalidate => exact invalidate_apply catalogs e
  | refreshPolicy => exact refreshPolicy_of_settled settled
  | setDefaults => exact setDefaults_of_settled settled
  | displayName name => exact setDisplayName_of_settled name settled
  | format format => exact setFormat_of_settled format settled
  | calculation calculation => exact setCalculation_of_settled calculation settled
  | columnType | placement | aggregate | showTotal | serieRole | pointSortKey | numericPreset
  | datePreset => exact change_refresh _ settled
  | _ => rfl

end Access

/-- One step describes every edit of a settled element. -/
theorem apply_of_settled (edit : Edit) (settled : e.Settled) :
    e.apply catalogs edit = e.edited catalogs edit := by
  simp only [apply, after, Access.perform_of_settled edit settled]
  simp [Bind.bind, Logged.andThen, Pure.pure, Logged.silent]

end ReportColumns.Element
