import ReportColumns.Proofs.Session.Resolution
/-!
Elements see the catalogs as they were at their last resolution point, and a lookup sees them as they
are now.
-/

namespace ReportColumns

namespace Element

variable {catalogs : CatalogStore}

def RefersTo (e : Element) (name columnId : String) : Prop :=
  e.columnId = columnId ∧ columnId ≠ "" ∧ ∃ source, e.source = some source ∧ source.catalog = name

theorem tryColumn_of_attached {e : Element} {source : CatalogSource} (catalogs : CatalogStore)
    (named : e.columnId ≠ "") (attached : e.source = some source) :
    e.tryColumn catalogs = catalogs.lookup source e.columnId := by
  have given : e.columnId.isEmpty = false := by simpa using named
  simp only [tryColumn, given, attached, Bool.false_eq_true, if_false]

theorem tryColumn_of_not_attached {e : Element} (catalogs other : CatalogStore)
    (loose : e.columnId = "" ∨ e.source = none) : e.tryColumn catalogs = e.tryColumn other := by
  unfold tryColumn
  rcases loose with unnamed | detached
  · simp [unnamed]
  · simp [detached]

theorem tryColumn_of_changed_answer {before after : CatalogStore} {name columnId : String}
    {answer : Except CatalogError CatalogEntry} (e : Element)
    (changed : ∀ source asked, after.lookup source asked =
      if source.catalog = name ∧ asked = columnId then answer else before.lookup source asked) :
    (e.RefersTo name columnId → e.tryColumn after = answer) ∧
      (¬ e.RefersTo name columnId → e.tryColumn after = e.tryColumn before) := by
  constructor
  · rintro ⟨same, named, source, attached, here⟩
    rw [tryColumn_of_attached after (same ▸ named) attached, changed, if_pos ⟨here, same⟩]
  · intro elsewhere
    by_cases loose : e.columnId = "" ∨ e.source = none
    · exact tryColumn_of_not_attached after before loose
    · obtain ⟨named, given⟩ := not_or.mp loose
      obtain ⟨source, attached⟩ := Option.ne_none_iff_exists'.mp given
      rw [tryColumn_of_attached after named attached,
        tryColumn_of_attached before named attached, changed, if_neg]
      rintro ⟨here, same⟩
      exact elsewhere ⟨same, same ▸ named, source, attached, here⟩

end Element

namespace Session

/-- After any steps in any order:

* the cell of every element keeps what the lookup at its last resolution point found, a failed lookup
  as no entry, and every question is answered from there in whatever catalogs it is asked;
* a change of a catalog leaves the elements alone, and a lookup sees it at once;
* a step logs one line about the catalogs when it is a resolution point whose reference names a column
  and leads nowhere, and no such line else. -/
theorem entry_kept_from_last_resolution (catalogs : CatalogStore) (steps : List SessionStep) :
    let session := ((start catalogs).run steps).value
    let found := (start catalogs).findings .none steps
    (∀ slot e, session.element? slot = some e →
      (∃ result, found slot = some result ∧ e.cell = some result.toOption ∧
        ∀ live, Query.column.ask live e = ⟨(result.toOption, e), []⟩) ∧
      (∀ live (query : Query), (query.ask live e).value = ((query.answer e).value, e) ∧
        (query.ask live e).linesOn .catalog = []) ∧
      (∀ name entry, (session.catalogs.get? name).isSome →
        let changed := (session.step (.insertEntry name entry)).value
        changed.element? slot = some e ∧
          (e.RefersTo name entry.id → e.tryColumn changed.catalogs = .ok entry) ∧
          (¬ e.RefersTo name entry.id →
            e.tryColumn changed.catalogs = e.tryColumn session.catalogs)) ∧
      (∀ name columnId,
        let changed := (session.step (.removeEntry name columnId)).value
        changed.element? slot = some e ∧
          (e.RefersTo name columnId →
            e.tryColumn changed.catalogs = .error (.columnNotFound columnId)) ∧
          (¬ e.RefersTo name columnId →
            e.tryColumn changed.catalogs = e.tryColumn session.catalogs))) ∧
    ∀ step, (session.step step).linesOn .catalog = step.missingLines session := by
  intro session found
  have recorded : session.Recorded found := run_recorded (start_recorded catalogs) steps
  refine ⟨fun slot e held => ?_, step_linesOn_catalog recorded⟩
  obtain ⟨fresh, result, listed, kept⟩ := recorded slot e held
  have asked (live : CatalogStore) (query : Query) :=
    Element.ask_of_settled live query fresh.settled
  have entry : e.entry = result.toOption := by rw [Element.entry, kept]; rfl
  refine ⟨⟨result, listed, kept, fun live => ?_⟩, fun live query => ⟨?_, ?_⟩,
    fun name entry present => ⟨held, ?_⟩, fun name columnId => ⟨held, ?_⟩⟩
  · rw [asked, ← entry]
    rfl
  · rw [asked]
  · rw [asked]
    exact Element.answer_logs_no_catalog_line query e
  · exact e.tryColumn_of_changed_answer (CatalogStore.lookup_update_insert entry present)
  · exact e.tryColumn_of_changed_answer
      (CatalogStore.lookup_update_remove session.catalogs name columnId)

/-- An element made before its column was added to the catalog has no entry, while a lookup finds the
column as soon as it is there. -/
theorem entry_kept_before_insertion :
    let entry : CatalogEntry :=
      ⟨"sales", "Sales", "Sales", .numeric, "N2", false, none, none⟩
    let session := ((start ⟨[("main", .empty false)]⟩).run
      [.forColumn "a" "1" ⟨"main", false⟩ "sales"]).value
    ∃ e, session.element? "a" = some e ∧ e.cell = some none ∧
      e.tryColumn (session.step (.insertEntry "main" entry)).value.catalogs = .ok entry ∧
      (session.step (.edit "a" .invalidate)).linesOn .catalog =
        [⟨.warn, .catalog, "element 1: Column not found in catalog: sales"⟩] := by
  intro entry session
  obtain ⟨held_law, line_law⟩ := entry_kept_from_last_resolution ⟨[("main", .empty false)]⟩
    [.forColumn "a" "1" ⟨"main", false⟩ "sales"]
  have made : (session.element? "a").any
      (fun e => e.columnId == "sales" && e.source == some ⟨"main", false⟩) = true := by
    decide +kernel
  obtain ⟨e, held, refers⟩ := Option.any_eq_true _ _ |>.mp made
  obtain ⟨named, attached⟩ := Bool.and_eq_true_iff.mp refers
  obtain ⟨⟨result, listed, kept, -⟩, -, inserted, -⟩ := held_law "a" e held
  have missing : (start ⟨[("main", .empty false)]⟩).findings .none
      [.forColumn "a" "1" ⟨"main", false⟩ "sales"] "a" =
        some (.error (.columnNotFound "sales")) := rfl
  have failed : some result = some (.error (.columnNotFound "sales")) := listed.symm.trans missing
  injection failed with failed
  refine ⟨e, held, by rw [kept, failed]; rfl, ?_, ?_⟩
  · exact (inserted "main" entry (by decide +kernel)).2.1
      ⟨eq_of_beq named, by decide, _, eq_of_beq attached, rfl⟩
  · rw [line_law]
    decide +kernel

end Session

end ReportColumns
