import ReportColumns.Proofs.Session.Resolution
/-!
The editor policy of every element a session can reach follows from the settings and the entry that the
element has at that moment.
-/

namespace ReportColumns.Session

/-- After any steps in any order, the stored policy of an element is the one derived from its inputs,
and asking for the inputs gives the same in whatever catalogs it is done. -/
theorem policy_never_stale (catalogs : CatalogStore) (steps : List SessionStep) (slot : String)
    (e : Element) (held : ((start catalogs).run steps).value.element? slot = some e) :
    e.policy = .derive e.policyInputs ∧
      ∀ live, Query.policyInputs.ask live e = ⟨(e.policyInputs, e), []⟩ := by
  have recorded := run_recorded (start_recorded catalogs) steps
  obtain ⟨fresh, -⟩ := recorded slot e held
  exact ⟨fresh.policy_derived, fun live => Element.ask_of_settled live .policyInputs fresh.settled⟩

theorem policy_never_stale_after_removal :
    let column : CatalogEntry :=
      ⟨"sales", "Sales", "Sales", .numeric, "N2", false, none, none⟩
    let catalogs : CatalogStore := ⟨[("main", ⟨[column], false⟩)]⟩
    let steps : List SessionStep :=
      [.forColumn "a" "1" ⟨"main", false⟩ "sales", .removeEntry "main" "sales",
        .edit "a" (.placement .data), .edit "a" (.format "0.0"), .clone "b" "a",
        .edit "b" .invalidate, .edit "b" (.aggregate .count)]
    ∃ e, ((start catalogs).run steps).value.element? "b" = some e ∧ e.entry = none ∧
      e.policy = .derive e.policyInputs := by
  intro column catalogs steps
  have ran : (((start catalogs).run steps).value.element? "b").any (·.entry.isNone) = true := by
    decide +kernel
  obtain ⟨e, held, missing⟩ := Option.any_eq_true _ _ |>.mp ran
  exact ⟨e, held, Option.isNone_iff_eq_none.mp missing,
    (policy_never_stale catalogs steps "b" e held).1⟩

end ReportColumns.Session
