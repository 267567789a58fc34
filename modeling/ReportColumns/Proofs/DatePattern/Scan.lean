import ReportColumns.DatePattern.Tokens
/-!
What a scan makes of the front of a text. A rule that stands there gives its token and the scan goes on
behind it; where no rule stands, one character is kept and the scan goes on behind that. These two steps
are all that is used of the scanner.
-/

namespace ReportColumns

variable {α : Type} {table : TokenTable α} {rule : TokenRule α} {text rest : List Char} {c : Char}

theorem TokenRule.matches_iff :
    rule.matches text = true ↔ rule.native ≠ [] ∧ rule.native <+: text := by
  simp [TokenRule.matches]

theorem TokenTable.ruleAt?_spec (found : table.ruleAt? text = some rule) :
    rule ∈ table ∧ rule.native ≠ [] ∧ ∃ rest, text = rule.native ++ rest := by
  unfold TokenTable.ruleAt? at found
  have stands := List.find?_some found
  obtain ⟨given, rest, front⟩ := TokenRule.matches_iff.mp stands
  exact ⟨List.mem_of_find?_eq_some found, given, rest, front.symm⟩

theorem TokenTable.ruleAt?_eq_none (absent : ∀ rule ∈ table, rule.native.head? ≠ some c) :
    table.ruleAt? (c :: rest) = none := by
  refine List.find?_eq_none.mpr fun rule listed stands => ?_
  obtain ⟨given, tail, front⟩ := TokenRule.matches_iff.mp stands
  apply absent rule listed
  cases native : rule.native with
  | nil => exact absurd native given
  | cons d others =>
    rw [native, List.cons_append] at front
    rw [List.head?_cons, (List.cons.inj front).1]

theorem scan_of_rule (found : table.ruleAt? text = some rule) :
    scan table text = .token rule.output :: scan table (text.drop rule.native.length) := by
  obtain ⟨-, given, rest, front⟩ := TokenTable.ruleAt?_spec found
  have long : 0 < rule.native.length := List.length_pos_iff.mpr given
  cases text with
  | nil =>
    have empty : rule.native = [] := (List.append_eq_nil_iff.mp front.symm).1
    exact absurd empty given
  | cons c rest =>
    obtain ⟨skipped, length⟩ : ∃ skipped, rule.native.length = skipped + 1 :=
      ⟨rule.native.length - 1, by omega⟩
    rw [scan, scanFrom, found]
    simp only [length, List.drop_succ_cons, Nat.add_sub_cancel]
    rw [scanFrom_eq_scan_drop]

theorem scan_of_none (missed : table.ruleAt? (c :: rest) = none) :
    scan table (c :: rest) = .literal c :: scan table rest := by
  rw [scan, scanFrom, missed]
  rfl

/-- A statement about all texts follows the steps of a scan. -/
theorem scan_induction (table : TokenTable α) {motive : List Char → Prop} (nil : motive [])
    (token : ∀ text rule, table.ruleAt? text = some rule →
      motive (text.drop rule.native.length) → motive text)
    (literal : ∀ c rest, table.ruleAt? (c :: rest) = none → motive rest → motive (c :: rest))
    (text : List Char) : motive text := by
  induction size : text.length using Nat.strongRecOn generalizing text with
  | ind n ih =>
    cases text with
    | nil => exact nil
    | cons c rest =>
      cases found : table.ruleAt? (c :: rest) with
      | none => exact literal c rest found (ih rest.length (by simp [← size]) rest rfl)
      | some rule =>
        obtain ⟨-, given, -⟩ := TokenTable.ruleAt?_spec found
        have taken : 0 < rule.native.length := List.length_pos_iff.mpr given
        have shorter : ((c :: rest).drop rule.native.length).length < n := by
          rw [List.length_drop, ← size, List.length_cons]
          omega
        exact token _ rule found (ih _ shorter _ rfl)

end ReportColumns
