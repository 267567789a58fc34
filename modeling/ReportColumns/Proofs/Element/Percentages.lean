import ReportColumns.Proofs.Element.EffectiveFormat
/-!
What a run of calculations leaves behind on an element without a format text.

A percentage writes its token into the empty text, and going back to none empties the text again. The
numeric selector does not return to where it was, but as long as there is no text every selector leaves
the column's format in effect, and all that is written about the format follows from the one in effect.
-/

namespace ReportColumns

/-- Whether the answer to a question is made with the format in effect. -/
def Query.asksFormat : Query → Bool
  | .effectiveFormat | .chartFormat _ | .spreadsheetFormat _ | .dialectFormats _
  | .displayValue _ _ => true
  | _ => false

namespace Element

variable {catalogs : CatalogStore} {e before after : Element}

theorem answer_of_same_format {query : Query} (asks : query.asksFormat = true)
    (effect : after.effectiveFormat = before.effectiveFormat)
    (kind : after.formatClassification = before.formatClassification) :
    query.answer after = query.answer before := by
  cases query with
  | effectiveFormat => simp only [Query.answer, effect]
  | chartFormat locale => simp only [Query.answer, chartFormat, effect, kind]
  | spreadsheetFormat locale => simp only [Query.answer, spreadsheetFormat, effect, kind]
  | dialectFormats locale => simp only [Query.answer, dialectFormats, effect, kind]
  | displayValue value locale => simp only [Query.answer, displayValue, effect]
  | _ => cases asks

theorem withCalculation_is_fresh (fresh : e.Fresh) (calculation : Calculation) :
    (e.withCalculation calculation).value.Fresh := by
  have step : (e.edited ⟨[]⟩ (.calculation calculation)).value.Fresh := edited_is_fresh fresh _
  exact step

theorem calculated_is_fresh (fresh : e.Fresh) (calculations : List Calculation) :
    (e.calculated calculations).Fresh := by
  induction calculations generalizing e with
  | nil => exact fresh
  | cons first rest ih => exact ih (withCalculation_is_fresh fresh first)

theorem applyAll_calculations (fresh : e.Fresh) (calculations : List Calculation) :
    (e.applyAll catalogs (calculations.map .calculation)).value = e.calculated calculations := by
  rw [applyAll_of_fresh fresh, List.foldl_map]
  rfl

theorem calculated_reset_of_empty (empty : e.format = "") (earlier : List Calculation)
    (last : Calculation) : (e.calculated (earlier ++ [last])).Reset last := by
  cases earlier with
  | nil => exact reset_of_empty empty last
  | cons first rest =>
    have run := (reset_of_empty empty first).calculated (rest ++ [last])
    rwa [List.getLast?_concat] at run

/-- An element that a session can reach, without a format text, takes any calculations in any catalogs.

* If the last one goes back to none, there is no format text again, and every question about the format
  is answered as before the run, with the same lines logged.
* If the last one is a percentage, the text is the token of the percentage preset that the numeric
  selector then stands at. It is in effect if the values are numbers. -/
theorem calculations_leave_no_residue (catalogs : CatalogStore) (steps : List SessionStep)
    (slot : String) (e : Element)
    (held : ((Session.start catalogs).run steps).value.element? slot = some e)
    (empty : e.format = "") (live : CatalogStore) (earlier : List Calculation)
    (last : Calculation) :
    let after := (e.applyAll live ((earlier ++ [last]).map .calculation)).value
    (last = .no → after.format = "" ∧
      ∀ query : Query, query.asksFormat = true → ∀ asked, ∃ answer lines,
        query.ask asked e = ⟨(answer, e), lines⟩ ∧
          query.ask asked after = ⟨(answer, after), lines⟩) ∧
      (last ≠ .no → after.format = "P0" ∧ after.numericPreset = .percentage0 ∧
        (e.isNumeric = true → after.InEffect "P0")) := by
  intro after
  have fresh : e.Fresh := Session.fresh_of_run held
  have run : after = e.calculated (earlier ++ [last]) := applyAll_calculations fresh _
  have reset : after.Reset last := run ▸ calculated_reset_of_empty empty earlier last
  have settled : after.Settled := run ▸ (calculated_is_fresh fresh _).settled
  have kind : after.formatClassification = e.formatClassification := by
    rw [run]
    exact calculated_formatClassification e _
  have stand_in : after.standInFormat = e.standInFormat := by
    rw [run]
    exact calculated_standInFormat e _
  constructor
  · intro back
    have cleared : after.format = "" := reset.format_eq.trans (if_pos back)
    have effect : after.effectiveFormat = e.effectiveFormat := by
      rw [effectiveFormat_of_empty cleared, effectiveFormat_of_empty empty, stand_in]
    refine ⟨cleared, ?_⟩
    intro query asks asked
    have same := answer_of_same_format asks effect kind
    refine ⟨(query.answer e).value, (query.answer e).lines, ?_, ?_⟩
    · exact ask_of_settled asked query fresh.settled
    · rw [← same]
      exact ask_of_settled asked query settled
  · intro percentage
    have written : after.format = "P0" := reset.format_eq.trans (if_neg percentage)
    have selected : after.numericPreset = .percentage0 := reset.preset_eq.trans (if_neg percentage)
    refine ⟨written, selected, ?_⟩
    intro numeric
    have shown : after.isNumeric = true := isNumeric_iff.mpr (kind.trans (isNumeric_iff.mp numeric))
    have effect : after.effectiveFormat = "P0" := by
      rw [effectiveFormat_eq, followsCatalog_of_numeric shown, selected, written]
      simp
    rw [← effect]
    exact settled.inEffect

theorem calculations_leave_no_residue_on_emptied_preset :
    let column : CatalogEntry :=
      ⟨"amount", "orders.amount", "Amount", .numeric, "N0", false, none, none⟩
    let catalogs : CatalogStore := ⟨[("main", ⟨[column], false⟩)]⟩
    let steps : List SessionStep :=
      [.forColumn "a" "1" ⟨"main", false⟩ "amount", .edit "a" (.numericPreset .numeric2),
        .edit "a" (.format "")]
    let run (e : Element) (calculations : List Calculation) : Element :=
      (e.applyAll catalogs (calculations.map .calculation)).value
    ∃ e, ((Session.start catalogs).run steps).value.element? "a" = some e ∧
      e.numericPreset = .numeric2 ∧
      (run e [.percentageOfRow, .no, .percentageOfAll]).InEffect "P0" ∧
      (run e [.percentageOfRow, .no, .percentageOfAll, .no]).format = "" := by
  intro column catalogs steps run
  have made : (((Session.start catalogs).run steps).value.element? "a").any
      (fun e => e.isNumeric && e.format == "" && e.numericPreset == .numeric2) = true := by
    decide +kernel
  obtain ⟨e, held, known⟩ := Option.any_eq_true _ _ |>.mp made
  simp only [Bool.and_eq_true, beq_iff_eq] at known
  obtain ⟨⟨numeric, empty⟩, selected⟩ := known
  obtain ⟨-, kept⟩ := calculations_leave_no_residue catalogs steps "a" e held empty catalogs
    [.percentageOfRow, .no] .percentageOfAll
  obtain ⟨-, -, effect⟩ := kept (by decide)
  obtain ⟨back, -⟩ := calculations_leave_no_residue catalogs steps "a" e held empty catalogs
    [.percentageOfRow, .no, .percentageOfAll] .no
  exact ⟨e, held, selected, effect numeric, (back rfl).1⟩

end Element

end ReportColumns
