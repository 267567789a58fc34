import ReportColumns.Proofs.Element.Format
import ReportColumns.Proofs.Session.Resolution
/-!
What a run of calculations makes of a format that was typed.

A calculation changes the format only in two ways: a percentage writes its token into an empty format,
and going back to none empties the format while the numeric selector is anything but custom. The second
looks at the numeric selector whatever kind of values the element has. A typed number format has set
that selector to custom and is safe; a typed date format or text is safe only if the selector happens to
be custom.
-/

namespace ReportColumns.Element

variable {catalogs : CatalogStore} {e : Element}

def calculated (e : Element) (calculations : List Calculation) : Element :=
  calculations.foldl (fun e calculation => (e.withCalculation calculation).value) e

theorem applyAll_format_calculations (fresh : e.Fresh) (text : String)
    (calculations : List Calculation) :
    (e.applyAll catalogs (.format text :: calculations.map .calculation)).value =
      (e.withFormat text).calculated calculations := by
  rw [applyAll_of_fresh fresh, List.foldl_cons, List.foldl_map]
  rfl

theorem calculated_frame (e : Element) (calculations : List Calculation) :
    ∃ calculation format numericPreset policy, e.calculated calculations =
      { e with calculation, format, numericPreset, policy } := by
  induction calculations generalizing e with
  | nil => exact ⟨e.calculation, e.format, e.numericPreset, e.policy, rfl⟩
  | cons first rest ih =>
    obtain ⟨format, preset, policy, step⟩ := withCalculation_frame e first
    obtain ⟨calculation, format', preset', policy', run⟩ := ih { e with
      calculation := first, format, numericPreset := preset, policy }
    refine ⟨calculation, format', preset', policy', ?_⟩
    rw [← run, calculated, List.foldl_cons, step]
    rfl

theorem calculated_standInFormat (e : Element) (calculations : List Calculation) :
    (e.calculated calculations).standInFormat = e.standInFormat := by
  obtain ⟨_, _, _, _, frame⟩ := calculated_frame e calculations
  rw [frame]
  rfl

theorem calculated_formatClassification (e : Element) (calculations : List Calculation) :
    (e.calculated calculations).formatClassification = e.formatClassification := by
  obtain ⟨_, _, _, _, frame⟩ := calculated_frame e calculations
  rw [frame]
  rfl

theorem calculated_followsCatalog {calculations : List Calculation}
    (own : e.followsCatalog = false)
    (steady : e.isNumeric = true → (e.calculated calculations).numericPreset = e.numericPreset) :
    (e.calculated calculations).followsCatalog = false := by
  obtain ⟨calculation, format, numericPreset, policy, frame⟩ := calculated_frame e calculations
  unfold followsCatalog at own ⊢
  rw [calculated_formatClassification]
  rcases e.formatClassification_cases with h | h | h
  · rw [h.1] at own ⊢
    rw [steady h.2.1]
    exact own
  · rw [h.1] at own ⊢
    rw [frame]
    exact own
  · rw [h.1]

theorem withCalculation_keeps {calculation : Calculation} (given : e.format ≠ "")
    (safe : e.numericPreset = .custom ∨ calculation ≠ .no) :
    (e.withCalculation calculation).value = refreshed { e with calculation } := by
  rcases e.withCalculation_cases calculation with
    ⟨-, empty, -, -⟩ | ⟨back, open_selector, -, -⟩ | ⟨-, -, -, step⟩
  · exact absurd empty given
  · rcases safe with custom | other
    · exact absurd custom open_selector
    · exact absurd back other
  · exact step

theorem calculated_keeps {calculations : List Calculation} (given : e.format ≠ "")
    (safe : e.numericPreset = .custom ∨ .no ∉ calculations) :
    (e.calculated calculations).format = e.format ∧
      (e.calculated calculations).numericPreset = e.numericPreset := by
  induction calculations generalizing e with
  | nil => exact ⟨rfl, rfl⟩
  | cons first rest ih =>
    have here : e.numericPreset = .custom ∨ first ≠ .no := by
      rcases safe with custom | absent
      · exact Or.inl custom
      · exact Or.inr fun reset => absent (by simp [reset])
    have later : e.numericPreset = .custom ∨ .no ∉ rest := by
      rcases safe with custom | absent
      · exact Or.inl custom
      · exact Or.inr fun member => absent (List.mem_cons_of_mem first member)
    have step : (e.withCalculation first).value = refreshed { e with calculation := first } :=
      withCalculation_keeps given here
    rw [calculated, List.foldl_cons, step]
    exact ih (e := refreshed { e with calculation := first }) given later

/-- The format and the numeric selector once a calculation went back to none, by the last calculation
since. -/
structure Reset (e : Element) (last : Calculation) : Prop where
  format_eq : e.format = if last = .no then "" else "P0"
  preset_eq : e.numericPreset = if last = .no then .custom else .percentage0

/-- A calculation resets the format, unless it is a percentage over a given format or goes back to none
under the custom selector; then it changes neither format nor selector. -/
theorem reset_or_kept (e : Element) (calculation : Calculation) :
    (e.withCalculation calculation).value.Reset calculation ∨
      (calculation ≠ .no → e.format ≠ "") ∧ (calculation = .no → e.numericPreset = .custom) ∧
        (e.withCalculation calculation).value = refreshed { e with calculation } := by
  rcases e.withCalculation_cases calculation with
    ⟨other, -, -, step⟩ | ⟨rfl, -, -, step⟩ | ⟨filled, custom, -, step⟩
  · left
    rw [step]
    exact ⟨(if_neg other).symm, (if_neg other).symm⟩
  · left
    rw [step]
    exact ⟨rfl, rfl⟩
  · exact Or.inr ⟨filled, custom, step⟩

theorem reset_of_no (e : Element) (open_selector : e.numericPreset ≠ .custom) :
    (e.withCalculation .no).value.Reset .no := by
  rcases e.reset_or_kept .no with reset | ⟨-, custom, -⟩
  · exact reset
  · exact absurd (custom rfl) open_selector

theorem reset_of_empty (empty : e.format = "") (calculation : Calculation) :
    (e.withCalculation calculation).value.Reset calculation := by
  rcases e.reset_or_kept calculation with reset | ⟨filled, custom, step⟩
  · exact reset
  · have back : calculation = .no := Decidable.byContradiction fun other => filled other empty
    subst back
    rw [step]
    exact ⟨empty, custom rfl⟩

theorem Reset.withCalculation {last : Calculation} (reset : e.Reset last)
    (calculation : Calculation) : (e.withCalculation calculation).value.Reset calculation := by
  by_cases cleared : last = .no
  · exact reset_of_empty (reset.format_eq.trans (if_pos cleared)) calculation
  · rcases e.reset_or_kept calculation with again | ⟨-, custom, step⟩
    · exact again
    · -- The selector is left at the percentage, so the calculation is not one that goes back.
      have percentage := reset.preset_eq.trans (if_neg cleared)
      have other : calculation ≠ .no := fun back => by cases percentage.symm.trans (custom back)
      rw [step]
      exact ⟨(reset.format_eq.trans (if_neg cleared)).trans (if_neg other).symm,
        percentage.trans (if_neg other).symm⟩

theorem Reset.calculated {last : Calculation} (reset : e.Reset last)
    (calculations : List Calculation) :
    (e.calculated calculations).Reset (calculations.getLast?.getD last) := by
  induction calculations generalizing e last with
  | nil => exact reset
  | cons first rest ih =>
    rw [List.getLast?_cons, Option.getD_some]
    exact ih (reset.withCalculation first)

theorem calculated_format_of_lost {calculations : List Calculation} (given : e.format ≠ "")
    (open_selector : e.numericPreset ≠ .custom) (resets : .no ∈ calculations) :
    (e.calculated calculations).format =
      if calculations.getLast? = some .no then "" else "P0" := by
  obtain ⟨before, after, split, first⟩ := List.eq_append_cons_of_mem resets
  have kept : (e.calculated before).numericPreset = e.numericPreset :=
    (calculated_keeps given (Or.inr first)).2
  have reset : ((e.calculated before).withCalculation .no).value.Reset .no :=
    reset_of_no _ (by rw [kept]; exact open_selector)
  have run : e.calculated calculations =
      ((e.calculated before).withCalculation .no).value.calculated after := by
    rw [split, calculated, List.foldl_append, List.foldl_cons]
    rfl
  have last : calculations.getLast? = some (after.getLast?.getD .no) := by
    rw [split, List.getLast?_append, List.getLast?_cons, Option.some_or]
  rw [run, last, (reset.calculated after).format_eq]
  simp

theorem withFormat_followsCatalog {text : String} (given : text ≠ "") :
    (e.withFormat text).followsCatalog = false := by
  have same : (e.withFormat text).formatClassification = e.formatClassification := rfl
  unfold followsCatalog
  rw [same]
  rcases e.formatClassification_cases with h | h | h
  · rw [h.1]
    cases unset : e.numericPreset == .default <;>
      simp [withFormat, refreshed, given, h, unset]
  · rw [h.1]
    cases unset : e.datePreset == .default <;>
      simp [withFormat, refreshed, given, h, unset]
  · rw [h.1]

theorem withFormat_numericPreset {text : String} (given : text ≠ "") :
    (e.withFormat text).numericPreset =
      if e.isNumeric = true ∧ e.numericPreset = .default then .custom else e.numericPreset := by
  simp [withFormat, refreshed, given]

/-- An element that a session can reach takes a typed format and then any calculations, where a numeric
element has its selector at the catalog's format or at custom.

* The typed text stays and is in effect if the element is numeric, if its numeric selector is custom, or
  if no calculation goes back to none.
* In all other cases the text is lost: what is left is the token of percentages, or nothing when the last
  calculation goes back to none. -/
theorem typed_format_survives_calculations (catalogs : CatalogStore) (steps : List SessionStep)
    (slot : String) (e : Element)
    (held : ((Session.start catalogs).run steps).value.element? slot = some e)
    (unset : e.isNumeric = true → e.numericPreset = .default ∨ e.numericPreset = .custom)
    (text : String) (given : text ≠ "") (live : CatalogStore) (calculations : List Calculation) :
    let after := (e.applyAll live (.format text :: calculations.map .calculation)).value
    let safe := e.isNumeric = true ∨ e.numericPreset = .custom ∨ .no ∉ calculations
    (safe → after.format = text ∧ after.effectiveFormat = text) ∧
      (¬ safe →
        after.format = (if calculations.getLast? = some .no then "" else "P0") ∧
        after.effectiveFormat =
          if calculations.getLast? = some .no then e.standInFormat else "P0") := by
  intro after safe
  have recorded := Session.run_recorded (Session.start_recorded catalogs) steps
  obtain ⟨fresh, -⟩ := recorded slot e held
  have run : after = (e.withFormat text).calculated calculations :=
    applyAll_format_calculations fresh text calculations
  have preset := withFormat_numericPreset (e := e) given
  have own : (e.withFormat text).followsCatalog = false := withFormat_followsCatalog given
  have stand_in : after.standInFormat = e.standInFormat := by
    rw [run, calculated_standInFormat]
    rfl
  constructor
  · intro holds
    -- Going back to none clears the format only while the numeric selector is not custom.
    have kept : (e.withFormat text).numericPreset = .custom ∨ .no ∉ calculations := by
      rcases holds with numeric | custom | absent
      · left
        rw [preset]
        rcases unset numeric with default | custom
        · simp [numeric, default]
        · simp [custom]
      · left
        rw [preset]
        simp [custom]
      · exact Or.inr absent
    obtain ⟨same_format, same_preset⟩ := calculated_keeps (e := e.withFormat text) given kept
    have stays : after.format = text := by rw [run, same_format]; rfl
    have counts : after.followsCatalog = false := by
      rw [run]
      exact calculated_followsCatalog own fun _ => same_preset
    refine ⟨stays, ?_⟩
    rw [effectiveFormat_eq, counts, stays]
    simp [given]
  · intro fails
    obtain ⟨not_numeric, others⟩ := not_or.mp fails
    obtain ⟨open_selector, resets⟩ := not_or.mp others
    have left_open : (e.withFormat text).numericPreset ≠ .custom := by
      rw [preset, if_neg fun both => not_numeric both.1]
      exact open_selector
    have lost : after.format = if calculations.getLast? = some .no then "" else "P0" := by
      rw [run]
      exact calculated_format_of_lost given left_open (Decidable.not_not.mp resets)
    have counts : after.followsCatalog = false := by
      rw [run]
      exact calculated_followsCatalog own fun numeric => absurd numeric not_numeric
    refine ⟨lost, ?_⟩
    rw [effectiveFormat_eq, counts, lost, stand_in]
    split <;> simp

theorem typed_format_survives_percentages :
    let column : CatalogEntry :=
      ⟨"amount", "orders.amount", "Amount", .numeric, "N0", false, none, none⟩
    let catalogs : CatalogStore := ⟨[("main", ⟨[column], false⟩)]⟩
    let steps : List SessionStep :=
      [.forColumn "a" "1" ⟨"main", false⟩ "amount", .edit "a" (.placement .data)]
    let calculations : List Calculation := [.percentageOfRow, .no, .percentageOfAll, .no]
    ∃ e, ((Session.start catalogs).run steps).value.element? "a" = some e ∧
      (e.applyAll catalogs (.format "0.0" :: calculations.map .calculation)).value.effectiveFormat =
        "0.0" := by
  intro column catalogs steps calculations
  have made : (((Session.start catalogs).run steps).value.element? "a").any
      (fun e => e.isNumeric && e.numericPreset == .default) = true := by
    decide +kernel
  obtain ⟨e, held, numeric⟩ := Option.any_eq_true _ _ |>.mp made
  obtain ⟨shown, unset⟩ := Bool.and_eq_true_iff.mp numeric
  have kept := typed_format_survives_calculations catalogs steps "a" e held
    (fun _ => Or.inl (eq_of_beq unset)) "0.0" (by decide) catalogs calculations
  exact ⟨e, held, (kept.1 (Or.inl shown)).2⟩

/-- A typed date format is lost as soon as the calculation is set to none, which it was all along. -/
theorem typed_date_format_lost :
    let column : CatalogEntry :=
      ⟨"placed", "orders.placed", "Placed", .dateTime, "d", false, none, none⟩
    let catalogs : CatalogStore := ⟨[("main", ⟨[column], false⟩)]⟩
    let made := (forColumn catalogs "1" ⟨"main", false⟩ "placed").value
    let typed := (made.apply catalogs (.format "yyyy-MM")).value
    let after := (typed.apply catalogs (.calculation .no)).value
    made.isDateTime = true ∧ made.datePreset = .default ∧ typed.datePreset = .custom ∧
      typed.effectiveFormat = "yyyy-MM" ∧ after.format = "" ∧ after.effectiveFormat = "d" := by
  decide +kernel

end ReportColumns.Element
