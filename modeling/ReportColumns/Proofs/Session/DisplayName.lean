import ReportColumns.Proofs.Element.Format
import ReportColumns.Proofs.Session.Resolution
/-!
The display name of an element in a session.

A name that is set is the name that is shown. It is kept as an override unless the column gives the same
name. An override stays whatever happens to the element and to the catalogs, until a name is set again.
Without one, the name shown is made from the entry in the cell, the placement, the kind of values and the
aggregate, and changes with them.
-/

namespace ReportColumns

/-- The name of a column on a report. Numbers that are aggregated there, other than by a sum or a count,
have the aggregate in front. The words for it are all that can be put in another language. -/
def columnNameIn (words : String → String) (placement : Placement) (kind : Classification)
    (aggregate : Aggregate) : Option CatalogEntry → String
  | none => ""
  | some entry =>
    if placement = .data ∧ kind = .numeric ∧ aggregate ∉ [.sum, .count] ∧
        entry.isAggregate = false then
      words (aggregate.label ++ " of") ++ " " ++ entry.displayName
    else entry.displayName

namespace Element

variable {catalogs : CatalogStore} {e : Element} {name : String}

def nameOfColumnIn (e : Element) (words : String → String) : String :=
  columnNameIn words e.placement e.formatClassification e.aggregate e.entry

def nameOfColumn (e : Element) : String := e.nameOfColumnIn fun text => text

/-- Asked in any catalogs, the element gives the display name, and looks nothing up. -/
def ShownAs (e : Element) (name : String) : Prop :=
  ∀ live, Query.displayName.ask live e = ⟨(name, e), []⟩

theorem derivedNameIn_eq (e : Element) (dictionary : Dictionary) :
    e.derivedNameIn dictionary = e.nameOfColumnIn dictionary.wordsFor := by
  unfold derivedNameIn nameOfColumnIn columnNameIn
  cases e.entry with
  | none => rfl
  | some entry =>
    have asked : e.namesAggregate entry = true ↔ e.placement = .data ∧
        e.formatClassification = .numeric ∧ e.aggregate ∉ [.sum, .count] ∧
          entry.isAggregate = false := by
      simp [namesAggregate, ← isNumeric_iff, and_assoc]
    simp only [asked, toString, String.append_assoc]

theorem derivedName_eq (e : Element) : e.derivedName = e.nameOfColumn :=
  e.derivedNameIn_eq .identity

theorem displayNameIn_eq (e : Element) (dictionary : Dictionary) :
    e.displayNameIn dictionary =
      if e.nameOverride = "" then e.nameOfColumnIn dictionary.wordsFor
      else dictionary.wordsFor e.nameOverride := by
  rw [displayNameIn, derivedNameIn_eq]
  simp only [String.isEmpty_iff]

theorem displayName_eq (e : Element) :
    e.displayName = if e.nameOverride = "" then e.nameOfColumn else e.nameOverride :=
  e.displayNameIn_eq .identity

theorem Settled.shownAs (settled : e.Settled) :
    e.ShownAs (if e.nameOverride = "" then e.nameOfColumn else e.nameOverride) := by
  intro live
  rw [← displayName_eq]
  exact ask_of_settled live .displayName settled

theorem displayName_withDisplayName (given : name ≠ "") :
    (e.withDisplayName name).displayName = name := by
  have same : (e.withDisplayName name).nameOfColumn = e.nameOfColumn := rfl
  rw [displayName_eq, same, ← derivedName_eq]
  unfold withDisplayName
  cases derived : e.entry.isSome && name == e.derivedName with
  | true =>
    obtain ⟨-, equal⟩ := Bool.and_eq_true_iff.mp derived
    simp [eq_of_beq equal]
  | false => simp [given]

theorem nameOverride_withDisplayName (given : name ≠ "") :
    (e.withDisplayName name).nameOverride = "" ↔ e.entry.isSome ∧ name = e.nameOfColumn := by
  rw [← derivedName_eq]
  unfold withDisplayName
  simp [given]

theorem edited_keeps_override (edit : Edit) (other : ∀ name, edit ≠ .displayName name) :
    (e.edited catalogs edit).value.nameOverride = e.nameOverride := by
  cases edit with
  | displayName name => exact absurd rfl (other name)
  | calculation calculation =>
    obtain ⟨_, _, _, step⟩ := e.withCalculation_frame calculation
    rw [edited, step]
  | _ => rfl

end Element

/-- Whether a step sets the display name of the element in a slot or puts another element there. -/
def SessionStep.renames (slot : String) : SessionStep → Bool
  | .blank other | .create other _ | .forColumn other _ _ _ | .clone other _
  | .edit other (.displayName _) => other == slot
  | .edit .. | .ask .. | .insertEntry .. | .removeEntry .. => false

namespace Session

variable {session : Session} {found : Findings} {slot : String} {e : Element}

theorem step_keeps_override (recorded : session.Recorded found)
    (held : session.element? slot = some e) (step : SessionStep)
    (keeps : step.renames slot = false) :
    ∃ after, (session.step step).value.element? slot = some after ∧
      after.nameOverride = e.nameOverride := by
  have put_elsewhere {other : String} (differs : other ≠ slot) (placed : Element) :
      (session.put other placed).element? slot = some e := by
    rw [element?_put, if_neg differs.symm, held]
  cases step with
  | blank other | create other id =>
    exact ⟨e, put_elsewhere (by simpa [SessionStep.renames] using keeps) _, rfl⟩
  | forColumn other id source columnId =>
    rw [step_forColumn]
    exact ⟨e, put_elsewhere (by simpa [SessionStep.renames] using keeps) _, rfl⟩
  | clone other original =>
    have differs : other ≠ slot := by simpa [SessionStep.renames] using keeps
    cases source : session.element? original with
    | none => exact ⟨e, by simpa [Session.step, source] using held, rfl⟩
    | some copied =>
      rw [step_clone source]
      exact ⟨e, put_elsewhere differs _, rfl⟩
  | edit other edit =>
    cases target : session.element? other with
    | none => exact ⟨e, by simpa [Session.step, target] using held, rfl⟩
    | some edited =>
      obtain ⟨fresh, -⟩ := recorded other edited target
      rw [step_edit edit target fresh.settled]
      by_cases same : other = slot
      · subst same
        obtain rfl := Option.some.inj (held.symm.trans target)
        refine ⟨_, (element?_put ..).trans (if_pos rfl), Element.edited_keeps_override edit ?_⟩
        rintro name rfl
        simp [SessionStep.renames] at keeps
      · exact ⟨e, put_elsewhere same _, rfl⟩
  | ask other query =>
    cases target : session.element? other with
    | none => exact ⟨e, by simpa [Session.step, Session.ask, target] using held, rfl⟩
    | some asked =>
      obtain ⟨fresh, -⟩ := recorded other asked target
      rw [step_ask query target fresh.settled]
      by_cases same : other = slot
      · subst same
        obtain rfl := Option.some.inj (held.symm.trans target)
        exact ⟨_, (element?_put ..).trans (if_pos rfl), rfl⟩
      · exact ⟨e, put_elsewhere same _, rfl⟩
  | insertEntry catalog entry => exact ⟨e, held, rfl⟩
  | removeEntry catalog columnId => exact ⟨e, held, rfl⟩

theorem run_keeps_override (recorded : session.Recorded found)
    (held : session.element? slot = some e) (steps : List SessionStep)
    (keep : ∀ step ∈ steps, step.renames slot = false) :
    ∃ last, (session.run steps).value.element? slot = some last ∧
      last.nameOverride = e.nameOverride := by
  induction steps generalizing session found e with
  | nil => exact ⟨e, held, rfl⟩
  | cons first rest ih =>
    obtain ⟨after, placed, kept⟩ := step_keeps_override recorded held first (keep first (by simp))
    obtain ⟨last, reached, stayed⟩ := ih (step_recorded recorded first) placed
      fun step later => keep step (by simp [later])
    exact ⟨last, reached, stayed.trans kept⟩

/-- An element that a session can reach.

* It is shown under its override, or, without one, under the name it has from its column as that is now.
  In the words of a dictionary it is shown under the words for the override, or under the name from the
  column with only the aggregate in front put in those words. No dictionary changes nothing.
* Once a name is set, it is the name shown. There is no override then just when there is an entry and
  the column gave that name before.
* Whatever follows in the session, short of another name set or another element put in the slot, an
  override stays, and the name with it. Without one, the name shown is the one that the column gives at
  that point. -/
theorem name_set_is_shown_until_renamed (catalogs : CatalogStore) (steps : List SessionStep)
    (slot : String) (e : Element)
    (held : ((start catalogs).run steps).value.element? slot = some e) :
    e.ShownAs (if e.nameOverride = "" then e.nameOfColumn else e.nameOverride) ∧
    (∀ live dictionary, (Query.displayNameIn dictionary).ask live e =
      ⟨(if e.nameOverride = "" then e.nameOfColumnIn dictionary.wordsFor
        else dictionary.wordsFor e.nameOverride, e), []⟩) ∧
    (∀ live, (Query.displayNameIn .identity).ask live e = Query.displayName.ask live e) ∧
    ∀ name, name ≠ "" →
      let renamed := (((start catalogs).run steps).value.step (.edit slot (.displayName name))).value
      ∃ named, renamed.element? slot = some named ∧ named.ShownAs name ∧
        (named.nameOverride = "" ↔ e.entry.isSome ∧ name = e.nameOfColumn) ∧
        ∀ later, (∀ step ∈ later, SessionStep.renames slot step = false) →
          ∃ last, (renamed.run later).value.element? slot = some last ∧
            (named.nameOverride ≠ "" → last.nameOverride = name ∧ last.ShownAs name) ∧
            (named.nameOverride = "" →
              last.nameOverride = "" ∧ last.ShownAs last.nameOfColumn) := by
  have recorded := run_recorded (start_recorded catalogs) steps
  have fresh : e.Fresh := (recorded slot e held).1
  refine ⟨fresh.settled.shownAs, ?_, ?_, ?_⟩
  · intro live dictionary
    rw [← Element.displayNameIn_eq]
    exact Element.ask_of_settled live (.displayNameIn dictionary) fresh.settled
  · intro live
    rw [Element.ask_of_settled live (.displayNameIn .identity) fresh.settled,
      Element.ask_of_settled live .displayName fresh.settled]
    rfl
  · intro name given renamed
    have after : renamed.Recorded _ := step_recorded recorded (.edit slot (.displayName name))
    have placed : renamed.element? slot = some (e.withDisplayName name) := by
      change (Session.step _ (.edit slot (.displayName name))).value.element? slot = _
      rw [step_edit (.displayName name) held fresh.settled]
      exact (element?_put ..).trans (if_pos rfl)
    have named_fresh : (e.withDisplayName name).Fresh := (after slot _ placed).1
    have overridden : (e.withDisplayName name).nameOverride ≠ "" →
        (e.withDisplayName name).nameOverride = name := by
      intro kept
      have shown := Element.displayName_withDisplayName (e := e) given
      rwa [Element.displayName_eq, if_neg kept] at shown
    refine ⟨_, placed, ?_, Element.nameOverride_withDisplayName given, ?_⟩
    · intro live
      have shown := Element.ask_of_settled live .displayName named_fresh.settled
      rw [shown]
      simp only [Query.answer, Element.displayName_withDisplayName given, Logged.value_pure,
        Logged.lines_pure]
    · intro later keep
      obtain ⟨last, reached, stayed⟩ := run_keeps_override after placed later keep
      have shown := (run_recorded after later slot last reached).1.settled.shownAs
      refine ⟨last, reached, ?_, ?_⟩
      · intro kept
        have name_kept : last.nameOverride = name := stayed.trans (overridden kept)
        rw [name_kept, if_neg given] at shown
        exact ⟨name_kept, shown⟩
      · intro none_kept
        have none_left : last.nameOverride = "" := stayed.trans none_kept
        rw [if_pos none_left] at shown
        exact ⟨none_left, shown⟩

theorem name_set_is_shown_until_renamed_average :
    let column : CatalogEntry :=
      ⟨"amount", "orders.amount", "Amount", .numeric, "N2", false, none, none⟩
    let catalogs : CatalogStore := ⟨[("main", ⟨[column], false⟩)]⟩
    let steps : List SessionStep :=
      [.forColumn "a" "1" ⟨"main", false⟩ "amount", .edit "a" (.placement .data),
        .edit "a" (.aggregate .average)]
    let after (name : String) (later : List SessionStep) : Option Element :=
      ((((start catalogs).run steps).value.step (.edit "a" (.displayName name))).value.run
        later).value.element? "a"
    (∃ last, after "Revenue" [.removeEntry "main" "amount", .edit "a" .invalidate] = some last ∧
      last.ShownAs "Revenue") ∧
    (∃ last, after "Average of Amount" [.edit "a" (.aggregate .max)] = some last ∧
      last.ShownAs "Max of Amount") := by
  intro column catalogs steps after
  have made : (((start catalogs).run steps).value.element? "a").any
      (fun e => e.entry.isSome && e.nameOfColumn == "Average of Amount") = true := by
    decide +kernel
  have changed : (after "Average of Amount" [.edit "a" (.aggregate .max)]).any
      (fun e => e.nameOfColumn == "Max of Amount") = true := by
    decide +kernel
  obtain ⟨e, held, known⟩ := Option.any_eq_true _ _ |>.mp made
  obtain ⟨present, average⟩ := Bool.and_eq_true_iff.mp known
  obtain ⟨-, -, -, set⟩ := name_set_is_shown_until_renamed catalogs steps "a" e held
  constructor
  · obtain ⟨named, -, -, bare, stays⟩ := set "Revenue" (by decide)
    obtain ⟨last, reached, shown, -⟩ := stays
      [.removeEntry "main" "amount", .edit "a" .invalidate] (by decide)
    have overridden : named.nameOverride ≠ "" := by
      intro empty
      obtain ⟨-, same⟩ := bare.mp empty
      rw [eq_of_beq average] at same
      exact absurd same (by decide)
    exact ⟨last, reached, (shown overridden).2⟩
  · obtain ⟨named, -, -, bare, stays⟩ := set "Average of Amount" (by decide)
    obtain ⟨last, reached, -, shown⟩ := stays [.edit "a" (.aggregate .max)] (by decide)
    have derived := (shown (bare.mpr ⟨present, (eq_of_beq average).symm⟩)).2
    obtain ⟨same, found, maximum⟩ := Option.any_eq_true _ _ |>.mp changed
    obtain rfl := Option.some.inj (found.symm.trans reached)
    rw [eq_of_beq maximum] at derived
    exact ⟨_, reached, derived⟩

end Session

end ReportColumns
