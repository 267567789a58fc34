import ReportColumns.Proofs.Element.Format
import ReportColumns.Proofs.Session.Resolution
/-!
Every edit may be repeated: as long as the catalogs stay as they are, doing it again changes nothing.

Most edits write what they are given. The others read settings that they write themselves: a display name
is compared with the name that follows from the catalog, a format moves a selector that it looks at, a
calculation looks at the format and the numeric selector, and the default aggregate depends on the kind of
values, which can depend on the aggregate. In each case what the second edit reads was settled by the
first.
-/

namespace ReportColumns

def Edit.placesOrAggregates : Edit → Bool
  | .setDefaults | .aggregate _ | .placement _ => true
  | _ => false

namespace Element

variable {catalogs : CatalogStore} {e : Element}

theorem relooked_again (catalogs : CatalogStore) (e : Element) :
    ((e.relooked catalogs).value.relooked catalogs).value = (e.relooked catalogs).value := by
  have same : (e.relooked catalogs).value.tryColumn catalogs = e.tryColumn catalogs := rfl
  have found : ((e.relooked catalogs).value.lookUp catalogs).value = (e.lookUp catalogs).value := by
    rw [lookUp_value, lookUp_value, same]
  rw [relooked, found]
  rfl

/-- The derived name does not depend on the name that overrides it. -/
theorem withDisplayName_again (e : Element) (name : String) :
    (e.withDisplayName name).withDisplayName name = e.withDisplayName name := by
  have entry : (e.withDisplayName name).entry = e.entry := rfl
  have derived : (e.withDisplayName name).derivedName = e.derivedName := rfl
  rw [withDisplayName, entry, derived]
  rfl

theorem moved_again {α : Type} [DecidableEq α] {default custom : α} (apart : custom ≠ default)
    (moves : Bool) (selector : α) :
    let moved := if moves && selector == default then custom else selector
    (if moves && moved == default then custom else moved) = moved := by
  intro moved
  cases unset : moves && selector == default with
  | true =>
    have set : moved = custom := if_pos unset
    have left_default : (moves && custom == default) = false := by simp [apart]
    rw [set, left_default]
    rfl
  | false =>
    have same : moved = selector := by simp [moved, unset]
    rw [same, unset]
    rfl

/-- The kind of values does not depend on the selectors, so a selector that the first format has moved is
the one that the second looks at. -/
theorem withFormat_again (e : Element) (format : String) :
    (e.withFormat format).withFormat format = e.withFormat format := by
  let after := e.withFormat format
  have numeric_stays :
      (if !format.isEmpty && after.isNumeric && after.numericPreset == .default then .custom
        else after.numericPreset) = after.numericPreset :=
    moved_again (by decide) (!format.isEmpty && e.isNumeric) e.numericPreset
  have date_stays :
      (if !format.isEmpty && after.isDateTime && after.datePreset == .default then .custom
        else after.datePreset) = after.datePreset :=
    moved_again (by decide) (!format.isEmpty && e.isDateTime) e.datePreset
  rw [withFormat, numeric_stays, date_stays]
  rfl

theorem withNumericPreset_again (e : Element) (preset : NumericPreset) :
    (e.withNumericPreset preset).withNumericPreset preset = e.withNumericPreset preset := by
  cases preset <;> rfl

theorem withDatePreset_again (e : Element) (preset : DatePreset) :
    (e.withDatePreset preset).withDatePreset preset = e.withDatePreset preset := by
  cases preset <;> rfl

theorem withCalculation_of_kept {calculation : Calculation} (filled : calculation ≠ .no → e.format ≠ "")
    (custom : calculation = .no → e.numericPreset = .custom) :
    (e.withCalculation calculation).value = refreshed { e with calculation } := by
  rcases e.withCalculation_cases calculation with
    ⟨other, empty, -, -⟩ | ⟨back, moved, -, -⟩ | ⟨-, -, -, step⟩
  · exact absurd empty (filled other)
  · exact absurd (custom back) moved
  · exact step

/-- A percentage finds the format that it has written, and going back to none finds the selector at
custom. What a calculation leaves alone it leaves alone again. -/
theorem withCalculation_again (e : Element) (calculation : Calculation) :
    ((e.withCalculation calculation).value.withCalculation calculation).value =
      (e.withCalculation calculation).value := by
  have token : "P0" ≠ "" := by decide
  rcases e.withCalculation_cases calculation with
    ⟨other, -, -, step⟩ | ⟨rfl, -, -, step⟩ | ⟨filled, custom, -, step⟩
  · rw [step, withCalculation_of_kept (fun _ => token) (fun back => absurd back other)]
    rfl
  · rw [step, withCalculation_of_kept (fun other => absurd rfl other) (fun _ => rfl)]
    rfl
  · rw [step]
    exact withCalculation_of_kept (e := refreshed { e with calculation }) filled custom

theorem edited_again (catalogs : CatalogStore) (e : Element) (edit : Edit) :
    ((e.edited catalogs edit).value.edited catalogs edit).value = (e.edited catalogs edit).value := by
  cases edit with
  | changeColumn columnId => exact relooked_again catalogs { e with columnId }
  | setSource source => exact relooked_again catalogs { e with source := some source }
  | invalidate => exact relooked_again catalogs e
  | displayName name => exact withDisplayName_again e name
  | format format => exact withFormat_again e format
  | numericPreset preset => exact withNumericPreset_again e preset
  | datePreset preset => exact withDatePreset_again e preset
  | calculation calculation => exact withCalculation_again e calculation
  -- The others write what does not depend on what they write.
  | _ => rfl

theorem applyAll_is_fresh (fresh : e.Fresh) (edits : List Edit) :
    (e.applyAll catalogs edits).value.Fresh := by
  rw [applyAll_of_fresh fresh]
  induction edits generalizing e with
  | nil => exact fresh
  | cons first rest ih => exact ih (edited_is_fresh fresh first)

theorem applyAll_again (fresh : e.Fresh) (edit : Edit) (count : Nat) :
    (e.applyAll catalogs (List.replicate (count + 1) edit)).value =
      (e.edited catalogs edit).value := by
  rw [applyAll_of_fresh fresh]
  induction count with
  | zero => rfl
  | succ count ih =>
    rw [List.replicate_succ', List.foldl_append, ih]
    exact edited_again catalogs e edit

theorem defaultAggregate_edited {edit : Edit} (about : edit.placesOrAggregates = true) :
    (e.edited catalogs edit).value.defaultAggregate = e.defaultAggregate := by
  cases edit with
  | setDefaults | aggregate | placement => rfl
  | _ => cases about

theorem defaultAggregate_applyAll (fresh : e.Fresh) {edits : List Edit}
    (about : ∀ edit ∈ edits, edit.placesOrAggregates = true) :
    (e.applyAll catalogs edits).value.defaultAggregate = e.defaultAggregate := by
  rw [applyAll_of_fresh fresh]
  induction edits generalizing e with
  | nil => rfl
  | cons first rest ih =>
    have later : ∀ edit ∈ rest, edit.placesOrAggregates = true :=
      fun edit listed => about edit (by simp [listed])
    rw [List.foldl_cons, ih (edited_is_fresh fresh first) later]
    exact defaultAggregate_edited (about first (by simp))

end Element

namespace Session

/-- An element that a session can reach takes an edit again while the catalogs stay as they are.

* The second time, and any number of times, the edit leaves the element that it left the first time:
  every setting, the entry and the policy.
* The aggregate that suits the values depends neither on the aggregate of the element nor on its
  placement.
* However the element is placed and aggregated in between, taking that aggregate gives the same one each
  time, in whatever catalogs it is asked for. -/
theorem every_edit_is_idempotent (catalogs : CatalogStore) (steps : List SessionStep) (slot : String)
    (e : Element) (held : ((start catalogs).run steps).value.element? slot = some e)
    (live : CatalogStore) :
    (∀ edit, let once := (e.apply live edit).value
      (once.apply live edit).value = once ∧
        ∀ count, (e.applyAll live (List.replicate (count + 1) edit)).value = once) ∧
    (∀ aggregate placement,
      ({ e with aggregate, placement } : Element).defaultAggregate = e.defaultAggregate) ∧
    ∀ edits : List Edit, (∀ edit ∈ edits, edit.placesOrAggregates = true) →
      let after := (e.applyAll live edits).value
      after.defaultAggregate = e.defaultAggregate ∧
        (∀ store, Query.defaultAggregate.ask store after = ⟨(e.defaultAggregate, after), []⟩) ∧
        ∀ store, (after.apply store .setDefaults).value.aggregate = e.defaultAggregate := by
  have fresh : e.Fresh := fresh_of_run held
  refine ⟨?_, fun _ _ => rfl, ?_⟩
  · intro edit once
    have applied : once = (e.edited live edit).value :=
      congrArg Logged.value (Element.apply_of_settled edit fresh.settled)
    have again : once.Fresh := applied ▸ Element.edited_is_fresh fresh edit
    constructor
    · rw [Element.apply_of_settled edit again.settled, applied, Element.edited_again]
    · intro count
      rw [applied, Element.applyAll_again fresh]
  · intro edits about after
    have suits : after.defaultAggregate = e.defaultAggregate :=
      Element.defaultAggregate_applyAll fresh about
    have settled : after.Settled := (Element.applyAll_is_fresh fresh edits).settled
    refine ⟨suits, ?_, ?_⟩
    · intro store
      rw [← suits]
      exact Element.ask_of_settled store .defaultAggregate settled
    · intro store
      rw [Element.apply_of_settled .setDefaults settled, ← suits]
      rfl

/-- A counted column of dates that is placed among the data: as long as it counts its rows it shows
numbers, and still the latest date is the aggregate that suits it. -/
theorem every_edit_is_idempotent_on_counted_dates :
    let column : CatalogEntry :=
      ⟨"placed", "orders.placed", "Placed", .dateTime, "d", false, none, none⟩
    let catalogs : CatalogStore := ⟨[("main", ⟨[column], false⟩)]⟩
    let steps : List SessionStep := [.forColumn "a" "1" ⟨"main", false⟩ "placed"]
    let counted : List Edit := [.placement .data, .aggregate .count]
    ∃ e, ((start catalogs).run steps).value.element? "a" = some e ∧
      (e.applyAll catalogs counted).value.countsRows = true ∧
      (e.applyAll catalogs counted).value.defaultAggregate = .max ∧
      ((e.applyAll catalogs counted).value.apply catalogs .setDefaults).value.aggregate = .max ∧
      ((e.apply catalogs (.format "yyyy")).value.apply catalogs (.format "yyyy")).value =
        (e.apply catalogs (.format "yyyy")).value := by
  intro column catalogs steps counted
  have made : (((start catalogs).run steps).value.element? "a").any (fun e =>
      (e.applyAll catalogs counted).value.countsRows && e.defaultAggregate == .max) = true := by
    decide +kernel
  obtain ⟨e, held, shown⟩ := Option.any_eq_true _ _ |>.mp made
  obtain ⟨counts, latest⟩ := Bool.and_eq_true_iff.mp shown
  obtain ⟨again, -, between⟩ := every_edit_is_idempotent catalogs steps "a" e held catalogs
  obtain ⟨suits, -, taken⟩ := between counted (by decide)
  have suiting : e.defaultAggregate = .max := eq_of_beq latest
  exact ⟨e, held, counts, suits.trans suiting, (taken catalogs).trans suiting, (again _).1⟩

end Session

end ReportColumns
