import ReportColumns.Session
import ReportColumns.Proofs.Element.Freshness
/-!
Resolution points of a session and what the lookups at them found.

A reference is looked up when its element is made, when the reference changes and when it is resolved
again. The findings record, for each slot, the result of the last of these lookups; a copy takes over
the record of the original. The invariant of a run ties every element to the record: the element is
fresh and its cell keeps what was found.
-/

namespace ReportColumns

def Edit.referring? (e : Element) : Edit → Option Element
  | .changeColumn columnId => some { e with columnId }
  | .setSource source => some { e with source := some source }
  | .invalidate => some e
  | _ => none

/-- The slot and the referring element when a step is a resolution point. -/
def SessionStep.resolution? (session : Session) : SessionStep → Option (String × Element)
  | .blank slot => some (slot, .bare)
  | .create slot id => some (slot, { Element.bare with id })
  | .forColumn slot id source columnId =>
    some (slot, { Element.bare with id, source := some source, columnId })
  | .edit slot requested =>
    (session.element? slot).bind fun e => (requested.referring? e).map (slot, ·)
  | .clone .. | .ask .. | .insertEntry .. | .removeEntry .. => none

abbrev Findings : Type := String → Option (Except CatalogError CatalogEntry)

def Findings.none : Findings := fun _ => .none

def Findings.record (found : Findings) (slot : String)
    (result : Option (Except CatalogError CatalogEntry)) : Findings :=
  fun other => if other = slot then result else found other

def SessionStep.findings (session : Session) (found : Findings) (step : SessionStep) : Findings :=
  match step.resolution? session with
  | some (slot, referring) => found.record slot (some (referring.tryColumn session.catalogs))
  | .none =>
    match step with
    | .clone slot original =>
      if (session.element? original).isSome then found.record slot (found original) else found
    | _ => found

/-- The findings of a run, from the findings at its start. -/
def Session.findings : Session → Findings → List SessionStep → Findings
  | _, found, [] => found
  | session, found, first :: rest =>
    (session.step first).value.findings (first.findings session found) rest

/-- The lines that a step is to log about the catalogs: one at a resolution point whose reference names
a column and leads nowhere. -/
def SessionStep.missingLines (session : Session) (step : SessionStep) : List LogLine :=
  match step.resolution? session with
  | .none => []
  | some (_, referring) =>
    (referring.missing? session.catalogs).toList.map referring.missingColumnLine

namespace Session

variable {session : Session} {found : Findings}

def Recorded (session : Session) (found : Findings) : Prop :=
  ∀ slot e, session.element? slot = some e →
    e.Fresh ∧ ∃ result, found slot = some result ∧ e.cell = some result.toOption

@[simp] theorem element?_put (session : Session) (slot other : String) (e : Element) :
    (session.put slot e).element? other =
      if other = slot then some e else session.element? other :=
  lookup_replaced session.slots slot other e

theorem start_recorded (catalogs : CatalogStore) : (start catalogs).Recorded .none := by
  intro slot e held
  cases held

theorem Recorded.put {found' : Findings} (recorded : session.Recorded found) (slot : String)
    {e : Element} {result : Except CatalogError CatalogEntry} (fresh : e.Fresh)
    (kept : e.cell = some result.toOption) (here : found' slot = some result)
    (elsewhere : ∀ other, other ≠ slot → found' other = found other) :
    (session.put slot e).Recorded found' := by
  intro other held_element held
  rw [element?_put] at held
  by_cases same : other = slot
  · rw [if_pos same] at held
    injection held with placed
    subst placed
    exact ⟨fresh, result, same ▸ here, kept⟩
  · rw [if_neg same] at held
    rw [elsewhere other same]
    exact recorded other held_element held

theorem Recorded.put_relooked (recorded : session.Recorded found) (slot : String)
    (referring : Element) :
    (session.put slot (referring.relooked session.catalogs).value).Recorded
      (found.record slot (some (referring.tryColumn session.catalogs))) :=
  recorded.put slot (Element.relooked_is_fresh ..) (Element.relooked_cell ..) (if_pos rfl)
    fun _ differs => if_neg differs

theorem step_forColumn (slot id : String) (source : CatalogSource) (columnId : String) :
    session.step (.forColumn slot id source columnId) =
      ⟨session.put slot ({ Element.bare with id, source := some source, columnId }.relooked
          session.catalogs).value,
        ({ Element.bare with id, source := some source, columnId }.relooked
          session.catalogs).lines⟩ := by
  simp only [step, Element.forColumn_eq_relooked]
  simp [Bind.bind, Logged.andThen, Pure.pure, Logged.silent]

theorem step_clone {slot original : String} {e : Element}
    (held : session.element? original = some e) :
    session.step (.clone slot original) = pure (session.put slot e) := by
  simp only [step, held]

theorem step_edit {slot : String} {e : Element} (edit : Edit)
    (held : session.element? slot = some e) (settled : e.Settled) :
    session.step (.edit slot edit) =
      ⟨session.put slot (e.edited session.catalogs edit).value,
        (e.edited session.catalogs edit).lines⟩ := by
  simp only [step, held, Element.apply_of_settled edit settled]
  simp [Bind.bind, Logged.andThen, Pure.pure, Logged.silent]

theorem step_ask {slot : String} {e : Element} (query : Query)
    (held : session.element? slot = some e) (settled : e.Settled) :
    session.step (.ask slot query) = ⟨session.put slot e, (query.answer e).lines⟩ := by
  simp only [step, ask, held, Element.ask_of_settled _ query settled]
  simp [Bind.bind, Logged.andThen, Pure.pure, Logged.silent]

theorem edited_of_referring {edit : Edit} {e referring : Element} {catalogs : CatalogStore}
    (refers : edit.referring? e = some referring) :
    e.edited catalogs edit = referring.relooked catalogs := by
  cases edit with
  | changeColumn | setSource | invalidate => cases refers; rfl
  | _ => cases refers

theorem keeps_of_not_referring {edit : Edit} {e : Element} (keeps : edit.referring? e = none) :
    edit.resolves = false := by
  cases edit with
  | changeColumn | setSource | invalidate => cases keeps
  | _ => rfl

/-- A step keeps every element fresh and in accord with the record. -/
theorem step_recorded (recorded : session.Recorded found) (step : SessionStep) :
    (session.step step).value.Recorded (step.findings session found) := by
  cases step with
  | blank slot =>
    rw [Session.step, Element.blank_eq_relooked session.catalogs]
    exact recorded.put_relooked slot _
  | create slot id =>
    rw [Session.step, Element.create_eq_relooked session.catalogs]
    exact recorded.put_relooked slot _
  | forColumn slot id source columnId =>
    rw [step_forColumn]
    exact recorded.put_relooked slot _
  | clone slot original =>
    simp only [SessionStep.findings, SessionStep.resolution?]
    cases held : session.element? original with
    | none =>
      simpa [Session.step, held] using recorded
    | some e =>
      obtain ⟨fresh, result, listed, kept⟩ := recorded original e held
      rw [step_clone held]
      exact recorded.put slot fresh kept (by simp [Findings.record, listed])
        fun other differs => by simp [Findings.record, differs]
  | edit slot edit =>
    cases held : session.element? slot with
    | none =>
      simpa [Session.step, SessionStep.findings, SessionStep.resolution?, held] using recorded
    | some e =>
      obtain ⟨fresh, result, listed, kept⟩ := recorded slot e held
      rw [step_edit edit held fresh.settled]
      -- Only an edit that refers the element anew looks it up, so only that one changes the record.
      cases refers : edit.referring? e with
      | some referring =>
        rw [edited_of_referring refers]
        simpa [SessionStep.findings, SessionStep.resolution?, held, refers] using
          recorded.put_relooked slot referring
      | none =>
        have keeps := keeps_of_not_referring refers
        simp only [SessionStep.findings, SessionStep.resolution?, held, refers, Option.bind_some,
          Option.map_none]
        exact recorded.put slot (Element.edited_is_fresh fresh edit)
          ((Element.edited_keeps_cell edit keeps).trans kept) listed fun _ _ => rfl
  | ask slot query =>
    cases held : session.element? slot with
    | none =>
      have same : session.step (.ask slot query) = pure session := by
        simp only [Session.step, Session.ask, held]
        rfl
      rw [same]
      exact recorded
    | some e =>
      obtain ⟨fresh, result, listed, kept⟩ := recorded slot e held
      rw [step_ask query held fresh.settled]
      exact recorded.put slot fresh kept listed fun _ _ => rfl
  | insertEntry catalog entry => exact recorded
  | removeEntry catalog columnId => exact recorded

theorem run_recorded (recorded : session.Recorded found) (steps : List SessionStep) :
    (session.run steps).value.Recorded (session.findings found steps) := by
  induction steps generalizing session found with
  | nil => exact recorded
  | cons first rest ih => exact ih (step_recorded recorded first)

theorem fresh_of_run {catalogs : CatalogStore} {steps : List SessionStep} {slot : String}
    {e : Element} (held : ((start catalogs).run steps).value.element? slot = some e) : e.Fresh :=
  (run_recorded (start_recorded catalogs) steps slot e held).1

theorem step_linesOn_catalog (recorded : session.Recorded found) (step : SessionStep) :
    (session.step step).linesOn .catalog = step.missingLines session := by
  cases step with
  | blank slot => rfl
  | create slot id => rfl
  | forColumn slot id source columnId =>
    rw [step_forColumn]
    exact Element.relooked_linesOn_catalog ..
  | clone slot original =>
    cases held : session.element? original with
    | none => simp [Session.step, held, SessionStep.missingLines, SessionStep.resolution?,
        Logged.linesOn]
    | some e =>
      rw [step_clone held]
      rfl
  | edit slot edit =>
    cases held : session.element? slot with
    | none => simp [Session.step, held, SessionStep.missingLines, SessionStep.resolution?,
        Logged.linesOn]
    | some e =>
      obtain ⟨fresh, -⟩ := recorded slot e held
      rw [step_edit edit held fresh.settled]
      cases refers : edit.referring? e with
      | some referring =>
        rw [edited_of_referring refers]
        simp only [SessionStep.missingLines, SessionStep.resolution?, held, refers,
          Option.bind_some, Option.map_some]
        exact Element.relooked_linesOn_catalog session.catalogs referring
      | none =>
        simp only [SessionStep.missingLines, SessionStep.resolution?, held, refers,
          Option.bind_some, Option.map_none]
        exact Element.edited_logs_no_catalog_line edit (keeps_of_not_referring refers)
  | ask slot query =>
    cases held : session.element? slot with
    | none => simp [Session.step, Session.ask, held, SessionStep.missingLines,
        SessionStep.resolution?, Logged.linesOn]
    | some e =>
      obtain ⟨fresh, -⟩ := recorded slot e held
      rw [step_ask query held fresh.settled]
      exact Element.answer_logs_no_catalog_line query e
  | insertEntry catalog entry => rfl
  | removeEntry catalog columnId => rfl

end Session

end ReportColumns
