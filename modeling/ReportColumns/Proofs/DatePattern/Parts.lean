import Mathlib.Data.List.Find
import ReportColumns.DatePattern.Render
import ReportColumns.Dialect
import ReportColumns.Locale.Preset
import ReportColumns.Proofs.DatePattern.Scan
/-!
Patterns read in parts.

A scan that takes the longest token is in general not the scan of the parts: a token may stand across the
place where they meet. The tokens of dates are runs of one letter, so this needs the same letter on both
sides. The space in a combined shorthand is no token letter, and each dialect makes of the combination
what it makes of the date and of the time.
-/

namespace ReportColumns

variable {α : Type} {table : TokenTable α} {rule : TokenRule α} {left right text rest : List Char}

def TokenTable.OfRuns (table : TokenTable α) : Prop :=
  ∀ rule ∈ table, ∀ c ∈ rule.native, rule.native.head? = some c

/-- One of two texts is empty, or they meet at different characters, or the character at which they meet
begins no token. -/
def TokenTable.Parts (table : TokenTable α) (left right : List Char) : Prop :=
  left = [] ∨ right = [] ∨ left.getLast? ≠ right.head? ∨
    ∀ rule ∈ table, rule.native.head? ≠ right.head?

instance (table : TokenTable α) : Decidable table.OfRuns :=
  decidable_of_iff (table.all fun rule => rule.native.all fun c => rule.native.head? = some c)
    (by simp [TokenTable.OfRuns])

instance (table : TokenTable α) (left right : List Char) : Decidable (table.Parts left right) :=
  inferInstanceAs (Decidable (_ ∨ _ ∨ _ ∨ _))

theorem chartTokens_ofRuns : chartTokens.OfRuns := by decide

theorem displayTokens_ofRuns : displayTokens.OfRuns := by decide

theorem prefix_append_cases {native : List Char} (stands : native <+: left ++ right) :
    native <+: left ∨ ∃ behind, behind <+: right ∧ native = left ++ behind := by
  rcases List.prefix_or_prefix_of_prefix stands (List.prefix_append left right) with within | across
  · exact Or.inl within
  · obtain ⟨behind, rfl⟩ := across
    exact Or.inr ⟨behind, (List.prefix_append_right_inj left).mp stands, rfl⟩

theorem TokenRule.matches_append (run : ∀ c ∈ rule.native, rule.native.head? = some c)
    (given : left ≠ [])
    (apart : left.getLast? ≠ right.head? ∨ rule.native.head? ≠ right.head?) :
    rule.matches (left ++ right) = rule.matches left := by
  rw [Bool.eq_iff_iff, TokenRule.matches_iff, TokenRule.matches_iff]
  apply and_congr_right
  intro _
  constructor
  · intro stands
    rcases prefix_append_cases stands with within | ⟨behind, across, native⟩
    · exact within
    · cases behind with
      | nil =>
        have same : rule.native = left := native.trans (List.append_nil left)
        exact ⟨[], by rw [same, List.append_nil]⟩
      | cons first others =>
        have last_in := run (left.getLast given) (by simp [native])
        have first_in := run first (by simp [native])
        obtain ⟨after, rfl⟩ := across
        rcases apart with differ | absent
        · exact absurd ((List.getLast?_eq_some_getLast given).trans (last_in.symm.trans first_in))
            differ
        · exact absurd first_in absent
  · intro stands
    exact stands.trans (List.prefix_append left right)

theorem TokenTable.Parts.of_cons {c : Char} (parts : table.Parts (c :: rest) right) :
    table.Parts rest right := by
  cases rest with
  | nil => exact Or.inl rfl
  | cons d others =>
    rcases parts with empty | nothing | differ | absent
    · cases empty
    · exact Or.inr (Or.inl nothing)
    · exact Or.inr (Or.inr (Or.inl (by rwa [List.getLast?_cons_cons] at differ)))
    · exact Or.inr (Or.inr (Or.inr absent))

theorem TokenTable.Parts.drop (count : Nat) (parts : table.Parts text right) :
    table.Parts (text.drop count) right := by
  induction count generalizing text with
  | zero => exact parts
  | succ count ih =>
    cases text with
    | nil => exact Or.inl rfl
    | cons c rest => exact ih parts.of_cons

theorem TokenTable.ruleAt?_append (runs : table.OfRuns) (parts : table.Parts left right)
    (given : left ≠ []) : table.ruleAt? (left ++ right) = table.ruleAt? left := by
  unfold TokenTable.ruleAt?
  rcases parts with empty | nothing | differ | absent
  · exact absurd empty given
  · rw [nothing, List.append_nil]
  · exact List.find?_congr fun rule listed =>
      TokenRule.matches_append (runs rule listed) given (Or.inl differ)
  · exact List.find?_congr fun rule listed =>
      TokenRule.matches_append (runs rule listed) given (Or.inr (absent rule listed))

/-- The scan of two texts is the scans of both, unless they meet inside a run of a token letter. -/
theorem scan_append (runs : table.OfRuns) (parts : table.Parts left right) :
    scan table (left ++ right) = scan table left ++ scan table right := by
  induction left using scan_induction table with
  | nil => rfl
  | literal c rest missed ih =>
    have still : table.ruleAt? (c :: (rest ++ right)) = none :=
      (TokenTable.ruleAt?_append runs parts (List.cons_ne_nil c rest)).trans missed
    rw [scan_of_none missed, List.cons_append, scan_of_none still, ih parts.of_cons]
    rfl
  | token text rule found ih =>
    obtain ⟨-, given, behind, front⟩ := TokenTable.ruleAt?_spec found
    have some_text : text ≠ [] := by
      rw [front]
      exact List.append_ne_nil_of_left_ne_nil given behind
    have fits : rule.native.length ≤ text.length := by
      rw [front, List.length_append]
      exact Nat.le_add_right ..
    have still : table.ruleAt? (text ++ right) = some rule :=
      (TokenTable.ruleAt?_append runs parts some_text).trans found
    rw [scan_of_rule found, scan_of_rule still, List.drop_append_of_le_length fits,
      ih (parts.drop _)]
    rfl

theorem scan_around {c : Char} (runs : table.OfRuns)
    (absent : ∀ rule ∈ table, rule.native.head? ≠ some c) (date time : List Char) :
    scan table (date ++ c :: time) = scan table date ++ .literal c :: scan table time := by
  have parts : table.Parts date (c :: time) := Or.inr (Or.inr (Or.inr absent))
  rw [scan_append runs parts, scan_of_none (TokenTable.ruleAt?_eq_none absent)]

theorem ofList_around_space (date time : List Char) :
    String.ofList (date ++ ' ' :: time) = String.ofList date ++ " " ++ String.ofList time := by
  simp [String.ofList_append, String.append_assoc]

theorem displayPattern_around_space (locale : Locale) (moment : DateTime) (date time : List Char) :
    displayPattern locale moment (date ++ ' ' :: time) =
      displayPattern locale moment date ++ ' ' :: displayPattern locale moment time := by
  have absent : ∀ rule ∈ displayTokens, rule.native.head? ≠ some ' ' := by decide
  rw [displayPattern, scan_around displayTokens_ofRuns absent, List.flatMap_append,
    List.flatMap_cons]
  rfl

theorem chartDirectives_around_space (date time : List Char) :
    chartDirectives (date ++ ' ' :: time) = chartDirectives date ++ ' ' :: chartDirectives time := by
  have absent : ∀ rule ∈ chartTokens, rule.native.head? ≠ some ' ' := by decide
  rw [chartDirectives, scan_around chartTokens_ofRuns absent, List.flatMap_append,
    List.flatMap_cons]
  rfl

def combinedShorthands : List (String × String × String) :=
  [("g", "d", "t"), ("G", "d", "T"), ("f", "D", "t"), ("F", "D", "T")]

section Combined

variable {combined date time : String} (listed : (combined, date, time) ∈ combinedShorthands)
  (locale : Locale)

include listed

theorem combined_cases :
    (combined, date, time) = ("g", "d", "t") ∨ (combined, date, time) = ("G", "d", "T") ∨
      (combined, date, time) = ("f", "D", "t") ∨ (combined, date, time) = ("F", "D", "T") := by
  simpa [combinedShorthands] using listed

theorem expandShorthand_combined :
    expandShorthand locale combined.toList =
      expandShorthand locale date.toList ++ ' ' :: expandShorthand locale time.toList := by
  rcases combined_cases listed with same | same | same | same <;> cases same <;> rfl

theorem combined_known :
    isUnknownShorthand combined.toList = false ∧ isUnknownShorthand date.toList = false ∧
      isUnknownShorthand time.toList = false := by
  rcases combined_cases listed with same | same | same | same <;> cases same <;> decide

theorem formatDateTime_combined (moment : DateTime) :
    ∃ dateText timeText, formatDateTime moment date locale = .ok dateText ∧
      formatDateTime moment time locale = .ok timeText ∧
      formatDateTime moment combined locale = .ok (dateText ++ " " ++ timeText) := by
  obtain ⟨known, dateKnown, timeKnown⟩ := combined_known listed
  refine ⟨_, _, by rw [formatDateTime, if_neg (by simp [dateKnown])],
    by rw [formatDateTime, if_neg (by simp [timeKnown])], ?_⟩
  rw [formatDateTime, if_neg (by simp [known]), expandShorthand_combined listed,
    displayPattern_around_space, ofList_around_space]

theorem chartDateFormat_combined :
    chartDateFormat combined locale =
      chartDateFormat date locale ++ " " ++ chartDateFormat time locale := by
  unfold chartDateFormat replaceSlashes
  rw [expandShorthand_combined listed, chartDirectives_around_space, List.flatMap_append,
    List.flatMap_cons]
  exact ofList_around_space ..

theorem spreadsheetFormat_combined :
    spreadsheetFormat combined .dateTime locale =
      spreadsheetFormat date .dateTime locale ++ " " ++
        spreadsheetFormat time .dateTime locale := by
  unfold spreadsheetFormat
  rw [expandShorthand_combined listed]
  exact ofList_around_space ..

end Combined

/-- Both tables are scanned in parts, and so a shorthand for a date and a time is in every dialect and
every locale the shorthand of the date, a space and the shorthand of the time. None of them is rejected
and none is logged. -/
theorem patterns_are_read_in_parts :
    (∀ left right, chartTokens.Parts left right →
      scan chartTokens (left ++ right) = scan chartTokens left ++ scan chartTokens right) ∧
    (∀ left right, displayTokens.Parts left right →
      scan displayTokens (left ++ right) = scan displayTokens left ++ scan displayTokens right) ∧
    ∀ combined date time, (combined, date, time) ∈ combinedShorthands → ∀ locale : Locale,
      (∀ moment, ∃ dateText timeText, formatDateTime moment date locale = .ok dateText ∧
        formatDateTime moment time locale = .ok timeText ∧
        formatDateTime moment combined locale = .ok (dateText ++ " " ++ timeText)) ∧
      (∃ dateChart timeChart, chartFormat date .dateTime locale = pure dateChart ∧
        chartFormat time .dateTime locale = pure timeChart ∧
        chartFormat combined .dateTime locale = pure (dateChart ++ " " ++ timeChart)) ∧
      spreadsheetFormat combined .dateTime locale =
        spreadsheetFormat date .dateTime locale ++ " " ++
          spreadsheetFormat time .dateTime locale := by
  refine ⟨fun left right parts => scan_append chartTokens_ofRuns parts,
    fun left right parts => scan_append displayTokens_ofRuns parts, ?_⟩
  intro combined date time listed locale
  refine ⟨formatDateTime_combined listed locale, ⟨chartDateFormat date locale,
    chartDateFormat time locale, rfl, rfl, ?_⟩, spreadsheetFormat_combined listed locale⟩
  rw [chartFormat, chartDateFormat_combined listed]

theorem patterns_are_read_in_parts_odd_locale :
    let odd := { Locale.enUS with longDatePattern := "M/d", longTimePattern := "d" }
    chartTokens.Parts ['t'] ['t'] ∧ displayTokens.Parts ['d'] ['M'] ∧
      ("F", "D", "T") ∈ combinedShorthands ∧
      scan chartTokens ['t', 't'] = [.literal 't', .literal 't'] ∧
      scan displayTokens ['d', 'M'] = [.token .day1, .token .month1] ∧
      spreadsheetFormat "F" .dateTime odd = "M/d d" := by
  intro odd
  obtain ⟨charts, displays, combinations⟩ := patterns_are_read_in_parts
  obtain ⟨-, -, spreadsheet⟩ := combinations "F" "D" "T" (by decide) odd
  have date : spreadsheetFormat "D" .dateTime odd = "M/d" := by decide +kernel
  have time : spreadsheetFormat "T" .dateTime odd = "d" := by decide +kernel
  rw [date, time] at spreadsheet
  exact ⟨by decide, by decide, by decide, charts ['t'] ['t'] (by decide),
    displays ['d'] ['M'] (by decide), spreadsheet⟩

end ReportColumns
