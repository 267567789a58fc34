import ReportColumns.Proofs.Element.Calculation
/-!
The format in effect after an edit of the format.

It depends on the kind of values, on both selectors, on the format text and on the catalog. What was set
last decides it alone: typed text is in effect, a preset's token is, and taking either back puts the
column's format in effect. A selector decides only for values of its own kind.
-/

namespace ReportColumns.Element

variable {e changed : Element} {format : String}

/-- Asked in any catalogs, the element says that the format is in effect, and looks nothing up. -/
def InEffect (e : Element) (format : String) : Prop :=
  ∀ live, Query.effectiveFormat.ask live e = ⟨(format, e), []⟩

theorem Settled.inEffect (settled : e.Settled) : e.InEffect e.effectiveFormat :=
  fun live => ask_of_settled live .effectiveFormat settled

theorem Fresh.inEffect_apply (fresh : e.Fresh) (live : CatalogStore) (edit : Edit)
    (decided : (e.edited live edit).value.effectiveFormat = format) :
    (e.apply live edit).value.InEffect format := by
  rw [apply_of_settled edit fresh.settled, ← decided]
  exact (edited_is_fresh fresh edit).settled.inEffect

theorem standInFormat_eq (e : Element) :
    e.standInFormat = ((e.entry.map (·.format)).filter (· ≠ "")).getD "0" := by
  unfold standInFormat catalogFormat
  cases e.entry with
  | none => rfl
  | some entry =>
    by_cases empty : entry.format = ""
    · simp [empty, fallbackFormat, Option.filter_some]
    · simp [empty, Option.filter_some]

theorem standInFormat_not_empty (e : Element) : e.standInFormat ≠ "" := by
  unfold standInFormat
  split
  · decide
  · rename_i given
    simpa using given

theorem effectiveFormat_not_empty (e : Element) : e.effectiveFormat ≠ "" := by
  rw [effectiveFormat_eq]
  split
  · exact e.standInFormat_not_empty
  · rename_i counts
    intro empty
    exact counts (by simp [empty])

theorem effectiveFormat_withFormat (e : Element) (text : String) :
    (e.withFormat text).effectiveFormat = if text = "" then e.standInFormat else text := by
  by_cases empty : text = ""
  · rw [if_pos empty]
    exact effectiveFormat_of_empty (e := e.withFormat text) empty
  · have written : (e.withFormat text).format = text := rfl
    rw [if_neg empty, effectiveFormat_eq, withFormat_followsCatalog empty, written]
    simp [empty]

theorem effectiveFormat_of_selection {kind : Classification} {token? : Option String} {unset : Prop}
    [Decidable unset] (shown : changed.formatClassification = kind)
    (selected : changed.presetToken? kind = token?) (meant : changed.followsCatalog = decide unset)
    (written : changed.format = token?.getD e.format)
    (stand_in : changed.standInFormat = e.standInFormat) :
    changed.effectiveFormat =
      token?.getD (if unset ∨ e.format = "" then e.standInFormat else e.format) := by
  subst shown
  cases token? with
  | none =>
    rw [Option.getD_none] at written ⊢
    rw [effectiveFormat_eq, meant, written, stand_in]
    simp
  | some token =>
    rw [Option.getD_some] at written ⊢
    rw [effectiveFormat_of_preset selected, written]
    simp [presetToken_not_empty selected]

theorem effectiveFormat_withNumericPreset (numeric : e.isNumeric = true) (preset : NumericPreset) :
    (e.withNumericPreset preset).effectiveFormat =
      preset.token?.getD
        (if preset = .default ∨ e.format = "" then e.standInFormat else e.format) := by
  have shown : (e.withNumericPreset preset).isNumeric = true := numeric
  exact effectiveFormat_of_selection (isNumeric_iff.mp shown) rfl (followsCatalog_of_numeric shown)
    rfl rfl

theorem effectiveFormat_withDatePreset (date : e.isDateTime = true) (preset : DatePreset) :
    (e.withDatePreset preset).effectiveFormat =
      preset.token?.getD
        (if preset = .default ∨ e.format = "" then e.standInFormat else e.format) := by
  have shown : (e.withDatePreset preset).isDateTime = true := date
  exact effectiveFormat_of_selection (isDateTime_iff.mp shown) rfl (followsCatalog_of_date shown)
    rfl rfl

/-- An element that a session can reach, whatever its kind of values and its selectors are. Its column's
format is the one in its catalog entry, and `0` if there is no entry or its format is empty.

* Some format is always in effect.
* Typed text is in effect at once, and the column's format once the text is emptied.
* A selector decides for values of its kind: a preset puts its token in effect and the default the
  column's format. Custom leaves the text in effect, or the column's format if there is none.
* A Data element that counts rows has numbers for values, whatever its column holds. -/
theorem format_edit_takes_effect (catalogs : CatalogStore) (steps : List SessionStep)
    (slot : String) (e : Element)
    (held : ((Session.start catalogs).run steps).value.element? slot = some e) :
    let columnFormat := ((e.entry.map (·.format)).filter (· ≠ "")).getD "0"
    (∃ format, format ≠ "" ∧ e.InEffect format) ∧
      (∀ live text, (e.apply live (.format text)).value.InEffect
        (if text = "" then columnFormat else text)) ∧
      (e.isNumeric = true → ∀ live (preset : NumericPreset),
        (e.apply live (.numericPreset preset)).value.InEffect
          (preset.token?.getD
            (if preset = .default ∨ e.format = "" then columnFormat else e.format))) ∧
      (e.isDateTime = true → ∀ live (preset : DatePreset),
        (e.apply live (.datePreset preset)).value.InEffect
          (preset.token?.getD
            (if preset = .default ∨ e.format = "" then columnFormat else e.format))) ∧
      (e.placement = .data → e.aggregate = .count → e.isNumeric = true) := by
  intro columnFormat
  have fresh : e.Fresh := Session.fresh_of_run held
  have column : columnFormat = e.standInFormat := e.standInFormat_eq.symm
  rw [column]
  refine ⟨⟨_, e.effectiveFormat_not_empty, fresh.settled.inEffect⟩, ?_, ?_, ?_, ?_⟩
  · intro live text
    exact fresh.inEffect_apply live (.format text) (e.effectiveFormat_withFormat text)
  · intro numeric live preset
    exact fresh.inEffect_apply live (.numericPreset preset)
      (effectiveFormat_withNumericPreset numeric preset)
  · intro date live preset
    exact fresh.inEffect_apply live (.datePreset preset)
      (effectiveFormat_withDatePreset date preset)
  · intro placed counted
    simp [isNumeric, countsRows, placed, counted]

theorem format_edit_takes_effect_on_counted_rows :
    let states : EnumDefinition := ⟨"states", true, [⟨"o", "Open"⟩, ⟨"c", "Closed"⟩]⟩
    let column : CatalogEntry :=
      ⟨"state", "orders.state", "State", .text, "", false, none, some states⟩
    let catalogs : CatalogStore := ⟨[("main", ⟨[column], false⟩)]⟩
    let steps : List SessionStep :=
      [.forColumn "a" "1" ⟨"main", false⟩ "state", .edit "a" (.placement .data),
        .edit "a" (.aggregate .count), .edit "a" (.datePreset .shortDate)]
    ∃ e, ((Session.start catalogs).run steps).value.element? "a" = some e ∧
      (e.apply catalogs (.format "0.0")).value.InEffect "0.0" ∧
      (e.apply catalogs (.format "")).value.InEffect "0" ∧
      (e.apply catalogs (.numericPreset .currency2)).value.InEffect "C2" ∧
      (e.apply catalogs (.numericPreset .custom)).value.InEffect "d" := by
  intro states column catalogs steps
  have made : (((Session.start catalogs).run steps).value.element? "a").any
      (fun e => e.entry == some column && e.placement == .data && e.aggregate == .count &&
        e.format == "d") = true := by
    decide +kernel
  obtain ⟨e, held, known⟩ := Option.any_eq_true _ _ |>.mp made
  simp only [Bool.and_eq_true, beq_iff_eq] at known
  obtain ⟨⟨⟨entry, placed⟩, counted⟩, written⟩ := known
  obtain ⟨-, typed, preset, -, counts⟩ := format_edit_takes_effect catalogs steps "a" e held
  have emptied := typed catalogs ""
  have selected := preset (counts placed counted) catalogs
  rw [entry] at emptied
  have custom := selected .custom
  rw [written] at custom
  exact ⟨e, held, typed catalogs "0.0", emptied, selected .currency2, custom⟩

end ReportColumns.Element
