import Mathlib.Data.List.Pairwise
import Mathlib.Logic.Function.Basic
import ReportColumns.Proofs.Session.Resolution
/-!
Edits that set one setting and derive nothing else from it but the entry and the policy.

The settings of an element are seen as one function, and a plain edit as an update of that function at
one place. Updates at different places commute. The entry and the policy are no settings: the entry is
what the last lookup found, which no edit of another setting changes, and the policy of a fresh element
follows from settings and entry.
-/

namespace ReportColumns

inductive Setting where
  | id
  | columnId
  | source
  | placement
  | nameOverride
  | columnType
  | format
  | numericPreset
  | datePreset
  | sortOrder
  | htmlTagsOverride
  | aggregate
  | calculation
  | showTotal
  | totalAggregate
  | serieRole
  | serverChart
  | clientChart
  | xAxis
  | yAxis
  | pointOrder
  | pointSortKey
  | axisUseValues
  | sqlOverride
  | cellCss
  | cellScript
  | drillEnabled
  | subReportsEnabled
  deriving DecidableEq, Repr

abbrev Setting.Value : Setting → Type
  | .id | .columnId | .nameOverride | .format | .sqlOverride | .cellCss | .cellScript => String
  | .source => Option CatalogSource
  | .placement => Placement
  | .columnType => ColumnType
  | .numericPreset => NumericPreset
  | .datePreset => DatePreset
  | .sortOrder => SortOrder
  | .htmlTagsOverride => Option Bool
  | .aggregate | .totalAggregate => Aggregate
  | .calculation => Calculation
  | .showTotal => ShowTotal
  | .serieRole => SerieRole
  | .serverChart => ServerChart
  | .clientChart => ClientChart
  | .xAxis | .yAxis => AxisType
  | .pointOrder => PointOrder
  | .pointSortKey => PointSortKey
  | .axisUseValues | .drillEnabled | .subReportsEnabled => Bool

abbrev Settings : Type := (setting : Setting) → setting.Value

def Element.setting (e : Element) : Settings
  | .id => e.id
  | .columnId => e.columnId
  | .source => e.source
  | .placement => e.placement
  | .nameOverride => e.nameOverride
  | .columnType => e.columnType
  | .format => e.format
  | .numericPreset => e.numericPreset
  | .datePreset => e.datePreset
  | .sortOrder => e.sortOrder
  | .htmlTagsOverride => e.htmlTagsOverride
  | .aggregate => e.aggregate
  | .calculation => e.calculation
  | .showTotal => e.showTotal
  | .totalAggregate => e.totalAggregate
  | .serieRole => e.serieRole
  | .serverChart => e.serverChart
  | .clientChart => e.clientChart
  | .xAxis => e.xAxis
  | .yAxis => e.yAxis
  | .pointOrder => e.pointOrder
  | .pointSortKey => e.pointSortKey
  | .axisUseValues => e.axisUseValues
  | .sqlOverride => e.sqlOverride
  | .cellCss => e.cellCss
  | .cellScript => e.cellScript
  | .drillEnabled => e.drillEnabled
  | .subReportsEnabled => e.subReportsEnabled

def Element.ofSettings (settings : Settings) (cell : Option (Option CatalogEntry))
    (policy : EditorPolicy) : Element where
  id := settings .id
  columnId := settings .columnId
  source := settings .source
  cell := cell
  placement := settings .placement
  nameOverride := settings .nameOverride
  columnType := settings .columnType
  format := settings .format
  numericPreset := settings .numericPreset
  datePreset := settings .datePreset
  sortOrder := settings .sortOrder
  htmlTagsOverride := settings .htmlTagsOverride
  aggregate := settings .aggregate
  calculation := settings .calculation
  showTotal := settings .showTotal
  totalAggregate := settings .totalAggregate
  serieRole := settings .serieRole
  serverChart := settings .serverChart
  clientChart := settings .clientChart
  xAxis := settings .xAxis
  yAxis := settings .yAxis
  pointOrder := settings .pointOrder
  pointSortKey := settings .pointSortKey
  axisUseValues := settings .axisUseValues
  sqlOverride := settings .sqlOverride
  cellCss := settings .cellCss
  cellScript := settings .cellScript
  drillEnabled := settings .drillEnabled
  subReportsEnabled := settings .subReportsEnabled
  policy := policy

namespace Edit

/-- The one setting that a plain edit sets, and its new value. An edit that writes several settings, or
that reads others to choose a value, is not plain; nor is one that only derives anew. -/
def assignment? : Edit → Option ((setting : Setting) × setting.Value)
  | .changeColumn columnId => some ⟨.columnId, columnId⟩
  | .setSource source => some ⟨.source, some source⟩
  | .columnType type => some ⟨.columnType, type⟩
  | .sortOrder order => some ⟨.sortOrder, order⟩
  | .hasHtmlTags value => some ⟨.htmlTagsOverride, value⟩
  | .placement place => some ⟨.placement, place⟩
  | .aggregate function => some ⟨.aggregate, function⟩
  | .showTotal shown => some ⟨.showTotal, shown⟩
  | .totalAggregate function => some ⟨.totalAggregate, function⟩
  | .serieRole role => some ⟨.serieRole, role⟩
  | .serverChart chart => some ⟨.serverChart, chart⟩
  | .clientChart chart => some ⟨.clientChart, chart⟩
  | .xAxis axis => some ⟨.xAxis, axis⟩
  | .yAxis axis => some ⟨.yAxis, axis⟩
  | .pointOrder order => some ⟨.pointOrder, order⟩
  | .pointSortKey key => some ⟨.pointSortKey, key⟩
  | .axisUseValues value => some ⟨.axisUseValues, value⟩
  | .sql expression => some ⟨.sqlOverride, expression⟩
  | .cellCss spec => some ⟨.cellCss, spec⟩
  | .cellScript script => some ⟨.cellScript, script⟩
  | .drillEnabled value => some ⟨.drillEnabled, value⟩
  | .subReportsEnabled value => some ⟨.subReportsEnabled, value⟩
  | .invalidate | .refreshPolicy | .setDefaults | .displayName _ | .format _ | .numericPreset _
  | .datePreset _ | .calculation _ => none

def setting? (edit : Edit) : Option Setting := edit.assignment?.map (·.1)

def IsPlain (edit : Edit) : Prop := edit.setting?.isSome = true

instance (edit : Edit) : Decidable edit.IsPlain := inferInstanceAs (Decidable (_ = true))

def assign (settings : Settings) (edit : Edit) : Settings :=
  match edit.assignment? with
  | some ⟨setting, value⟩ => Function.update settings setting value
  | none => settings

end Edit

namespace Element

variable {catalogs : CatalogStore} {start e : Element} {edit : Edit} {looked : Bool}

theorem setting_edited {setting : Setting} {value : setting.Value}
    (assigns : edit.assignment? = some ⟨setting, value⟩) :
    (e.edited catalogs edit).value.setting = Function.update e.setting setting value := by
  rw [Function.eq_update_iff]
  cases edit with
  | invalidate | refreshPolicy | setDefaults | displayName | format | numericPreset | datePreset
  | calculation => cases assigns
  | _ =>
    cases assigns
    constructor
    · rfl
    · intro other differs
      cases other <;> first | rfl | exact absurd rfl differs

theorem setting_edited_eq_assign (plain : edit.IsPlain) :
    (e.edited catalogs edit).value.setting = Edit.assign e.setting edit := by
  unfold Edit.IsPlain Edit.setting? at plain
  unfold Edit.assign
  cases assigns : edit.assignment? with
  | none => simp [assigns] at plain
  | some assignment => exact setting_edited assigns

theorem tryColumn_of_setting {other : Element} (same : e.setting = other.setting) :
    e.tryColumn catalogs = other.tryColumn catalogs := by
  have column : e.columnId = other.columnId := congrFun same .columnId
  have source : e.source = other.source := congrFun same .source
  unfold tryColumn
  rw [column, source]

theorem tryColumn_edited (plain : edit.IsPlain) (keeps : edit.resolves = false) :
    (e.edited catalogs edit).value.tryColumn catalogs = e.tryColumn catalogs := by
  cases edit with
  | changeColumn | setSource => cases keeps
  | invalidate | refreshPolicy | setDefaults | displayName | format | numericPreset | datePreset
  | calculation => cases plain
  | _ => rfl

/-- The cell keeps what the reference leads to now if it was looked up since the start, and otherwise
what it kept at the start. -/
def LookedUp (catalogs : CatalogStore) (start e : Element) (looked : Bool) : Prop :=
  e.cell = if looked then some (e.tryColumn catalogs).toOption else start.cell

theorem LookedUp.edited (kept : LookedUp catalogs start e looked) (plain : edit.IsPlain) :
    LookedUp catalogs start (e.edited catalogs edit).value (looked || edit.resolves) := by
  unfold LookedUp at kept ⊢
  cases resolves : edit.resolves with
  | false =>
    rw [edited_keeps_cell edit resolves, tryColumn_edited plain resolves, Bool.or_false]
    exact kept
  | true =>
    rw [Bool.or_true, if_pos rfl]
    cases edit with
    | changeColumn | setSource => exact relooked_cell ..
    | invalidate => cases plain
    | _ => cases resolves

/-- What a run of plain edits leaves: a fresh element, its settings updated one after the other, and the
entry as the last reference leads to it. -/
theorem edited_all_plain (edits : List Edit) (fresh : e.Fresh)
    (kept : LookedUp catalogs start e looked) (plain : ∀ edit ∈ edits, edit.IsPlain) :
    let after := edits.foldl (fun e edit => (e.edited catalogs edit).value) e
    after.Fresh ∧ after.setting = edits.foldl Edit.assign e.setting ∧
      LookedUp catalogs start after (looked || edits.any Edit.resolves) := by
  induction edits generalizing e looked with
  | nil => exact ⟨fresh, rfl, by simpa using kept⟩
  | cons first rest ih =>
    have first_plain : first.IsPlain := plain first (by simp)
    have rest_plain : ∀ edit ∈ rest, edit.IsPlain := fun edit listed => plain edit (by simp [listed])
    have step := ih (edited_is_fresh fresh first) (kept.edited first_plain) rest_plain
    rw [setting_edited_eq_assign first_plain, Bool.or_assoc] at step
    simpa only [List.foldl_cons, List.any_cons] using step

theorem Fresh.eq_of_setting {other : Element} (fresh : e.Fresh) (other_fresh : other.Fresh)
    (settings : e.setting = other.setting) (cell : e.cell = other.cell) : e = other := by
  -- The inputs of a policy are settings and entry, so the policy that is stored does not matter.
  have inputs (policy policy' : EditorPolicy) :
      (ofSettings e.setting e.cell policy).policyInputs =
        (ofSettings e.setting e.cell policy').policyInputs := rfl
  have rebuilt : other = ofSettings e.setting e.cell other.policy := by rw [settings, cell]; rfl
  have policy : e.policy = other.policy := by
    rw [fresh.policy_derived, other_fresh.policy_derived]
    congr 1
    calc e.policyInputs = (ofSettings e.setting e.cell e.policy).policyInputs := rfl
      _ = (ofSettings e.setting e.cell other.policy).policyInputs := inputs ..
      _ = other.policyInputs := by rw [← rebuilt]
  rw [rebuilt, ← policy]
  rfl

theorem assign_comm {first second : Edit} (apart : first.setting? ≠ second.setting?)
    (settings : Settings) :
    Edit.assign (Edit.assign settings first) second =
      Edit.assign (Edit.assign settings second) first := by
  unfold Edit.setting? at apart
  unfold Edit.assign
  cases left : first.assignment? with
  | none => rfl
  | some assignment =>
    cases right : second.assignment? with
    | none => rfl
    | some other =>
      have differ : assignment.1 ≠ other.1 := by simpa [left, right] using apart
      exact Function.update_comm differ _ _ _

theorem assign_perm {edits reordered : List Edit} (perm : edits.Perm reordered)
    (apart : edits.Pairwise fun first second => first.setting? ≠ second.setting?)
    (settings : Settings) :
    edits.foldl Edit.assign settings = reordered.foldl Edit.assign settings := by
  have symmetric : Std.Symm fun first second : Edit => first.setting? ≠ second.setting? :=
    ⟨fun _ _ differ => differ.symm⟩
  apply perm.foldl_eq'
  intro first listed second also_listed settings
  by_cases same : first = second
  · rw [same]
  · exact assign_comm (apart.forall listed also_listed same) settings

theorem applyAll_perm {edits reordered : List Edit} (fresh : e.Fresh)
    (perm : edits.Perm reordered) (plain : ∀ edit ∈ edits, edit.IsPlain)
    (apart : edits.Pairwise fun first second => first.setting? ≠ second.setting?) :
    (e.applyAll catalogs edits).value = (e.applyAll catalogs reordered).value := by
  have kept : LookedUp catalogs e e false := rfl
  have plain_reordered : ∀ edit ∈ reordered, edit.IsPlain :=
    fun edit listed => plain edit (perm.mem_iff.mpr listed)
  rw [applyAll_of_fresh fresh, applyAll_of_fresh fresh]
  obtain ⟨left_fresh, left_settings, left_kept⟩ := edited_all_plain edits fresh kept plain
  obtain ⟨right_fresh, right_settings, right_kept⟩ :=
    edited_all_plain reordered fresh kept plain_reordered
  have settings := left_settings.trans ((assign_perm perm apart _).trans right_settings.symm)
  -- Whether a lookup was made is asked of the whole run, so its place in it does not matter.
  apply left_fresh.eq_of_setting right_fresh settings
  rw [left_kept, right_kept, tryColumn_of_setting settings, perm.any_eq]

end Element

namespace Session

/-- An element that a session can reach takes plain edits while the catalogs stay as they are.

* Each edit sets its own setting and no other, and keeps the entry unless it changes the reference.
* Two edits of different settings give the same element in either order, with the same entry and the
  same policy, and so does every order of a list of edits whose settings all differ. -/
theorem plain_edits_commute (catalogs : CatalogStore) (steps : List SessionStep) (slot : String)
    (e : Element) (held : ((start catalogs).run steps).value.element? slot = some e)
    (live : CatalogStore) :
    (∀ edit setting value, edit.assignment? = some ⟨setting, value⟩ →
      let after := (e.apply live edit).value
      after.setting setting = value ∧
        (∀ other, other ≠ setting → after.setting other = e.setting other) ∧
        (edit.resolves = false → after.cell = e.cell)) ∧
    (∀ first second : Edit, first.IsPlain → second.IsPlain → first.setting? ≠ second.setting? →
      (e.applyAll live [first, second]).value = (e.applyAll live [second, first]).value) ∧
    ∀ edits reordered : List Edit, edits.Perm reordered → (∀ edit ∈ edits, edit.IsPlain) →
      edits.Pairwise (fun first second => first.setting? ≠ second.setting?) →
      (e.applyAll live edits).value = (e.applyAll live reordered).value := by
  obtain ⟨fresh, -⟩ := run_recorded (start_recorded catalogs) steps slot e held
  refine ⟨?_, ?_, fun edits reordered perm plain apart => Element.applyAll_perm fresh perm plain apart⟩
  · intro edit setting value assigns after
    have applied : after = (e.edited live edit).value := by
      rw [← Element.apply_of_settled edit fresh.settled]
    have updated : (e.edited live edit).value.setting =
        Function.update e.setting setting value := Element.setting_edited assigns
    rw [applied, updated]
    refine ⟨Function.update_self .., fun other differs => Function.update_of_ne differs .., ?_⟩
    exact fun keeps => Element.edited_keeps_cell edit keeps
  · intro first second first_plain second_plain differ
    exact Element.applyAll_perm fresh (List.Perm.swap ..) (by simp [first_plain, second_plain])
      (by simpa using differ)

/-- An element of one catalog moves to a column of another one and starts to count rows there. A lookup
halfway would find nothing in either order. -/
theorem plain_edits_commute_across_catalogs :
    let sales : CatalogEntry := ⟨"sales", "Sales", "Sales", .numeric, "N2", false, none, none⟩
    let cost : CatalogEntry := ⟨"cost", "Cost", "Cost", .text, "", true, none, none⟩
    let catalogs : CatalogStore := ⟨[("main", ⟨[sales], false⟩), ("other", ⟨[cost], true⟩)]⟩
    let steps : List SessionStep := [.forColumn "a" "1" ⟨"main", false⟩ "sales"]
    let moves : List Edit := [.changeColumn "cost", .setSource ⟨"other", true⟩]
    let edits : List Edit := moves ++ [.placement .data, .sortOrder .notSorted, .aggregate .count]
    ∃ e, ((start catalogs).run steps).value.element? "a" = some e ∧
      e.entry = some sales ∧ (e.applyAll catalogs edits).value.entry = some cost ∧
      (e.apply catalogs (.placement .data)).value.setting .sortOrder = e.setting .sortOrder ∧
      (e.applyAll catalogs moves).value =
        (e.applyAll catalogs [.setSource ⟨"other", true⟩, .changeColumn "cost"]).value ∧
      (e.applyAll catalogs edits).value = (e.applyAll catalogs edits.reverse).value := by
  intro sales cost catalogs steps moves edits
  have ran : (((start catalogs).run steps).value.element? "a").any (fun e =>
      e.entry == some sales && (e.applyAll catalogs edits).value.entry == some cost) = true := by
    decide +kernel
  obtain ⟨e, held, entries⟩ := Option.any_eq_true _ _ |>.mp ran
  obtain ⟨before, after⟩ := Bool.and_eq_true_iff.mp entries
  obtain ⟨single, pair, all⟩ := plain_edits_commute catalogs steps "a" e held catalogs
  obtain ⟨-, others, -⟩ := single (.placement .data) .placement .data rfl
  refine ⟨e, held, eq_of_beq before, eq_of_beq after, others .sortOrder (by decide), ?_, ?_⟩
  · exact pair _ _ (by decide) (by decide) (by decide)
  · exact all edits edits.reverse (List.reverse_perm edits).symm (by decide) (by decide)

end Session

end ReportColumns
