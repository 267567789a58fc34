import ReportColumns.DatePattern.Render
import ReportColumns.Dialect
import ReportColumns.Locale.Preset
import ReportColumns.Proofs.DatePattern.Scan
/-!
Charts read a date pattern as it is displayed: the segments of the two scans are the same, but for the
half of the day, which charts keep as two letters. The separator of the locale goes in place of the
slashes that stand between the other segments, and its own characters are never looked at.
-/

namespace ReportColumns

def DatePart.directive? : DatePart → Option String
  | .dayNameFull => some "%A"
  | .dayNameShort => some "%a"
  | .day2 => some "%d"
  | .day1 => some "%e"
  | .monthNameFull => some "%B"
  | .monthNameShort => some "%b"
  | .month2 | .month1 => some "%m"
  | .year4 => some "%Y"
  | .year2 | .year1 => some "%y"
  | .hour24Padded | .hour24 => some "%H"
  | .hour12Padded | .hour12 => some "%I"
  | .minute2 | .minute1 => some "%M"
  | .second2 | .second1 => some "%S"
  | .millisecond => some "%L"
  | .designator => none

def TokenRule.directed? (rule : TokenRule DatePart) : Option (TokenRule String) :=
  rule.output.directive?.map (⟨rule.native, ·⟩)

namespace Segment

def inChart : Segment DatePart → List (Segment String)
  | .token part =>
    match part.directive? with
    | some directive => [.token directive]
    | none => [.literal 't', .literal 't']
  | .literal c => [.literal c]

def chartChars : Segment DatePart → List Char
  | .token part => (part.directive?.getD "tt").toList
  | .literal c => [c]

def ownChars (locale : Locale) (moment : DateTime) : Segment DatePart → List Char
  | .token part => part.chars locale moment
  | .literal c => [c]

end Segment

theorem chartTokens_eq_directed : chartTokens = displayTokens.filterMap TokenRule.directed? := rfl

theorem native_of_no_directive :
    ∀ rule ∈ displayTokens, rule.output.directive? = none → rule.native = ['t', 't'] := by decide

theorem no_chart_token_begins_with_t :
    ∀ rule ∈ chartTokens, rule.native.head? ≠ some 't' := by decide

theorem chart_ruleAt? (text : List Char) :
    chartTokens.ruleAt? text =
      (displayTokens.find? fun rule => rule.directed?.any (·.matches text)).bind
        TokenRule.directed? := by
  rw [chartTokens_eq_directed, TokenTable.ruleAt?, List.find?_filterMap]

theorem directed_matches {rule : TokenRule DatePart} {text : List Char}
    (stands : rule.directed?.any (·.matches text) = true) : rule.matches text = true := by
  unfold TokenRule.directed? at stands
  cases directive : rule.output.directive? with
  | none => simp [directive] at stands
  | some word => simpa [directive, TokenRule.matches] using stands

theorem chart_of_display_none {text : List Char} (missed : displayTokens.ruleAt? text = none) :
    chartTokens.ruleAt? text = none := by
  have none_stands := List.find?_eq_none.mp missed
  have none_directed : displayTokens.find? (fun rule => rule.directed?.any (·.matches text)) =
      none := by
    refine List.find?_eq_none.mpr fun rule listed stands => ?_
    exact none_stands rule listed (directed_matches stands)
  rw [chart_ruleAt?, none_directed]
  rfl

theorem chart_of_display_some {text : List Char} {rule : TokenRule DatePart} {directive : String}
    (found : displayTokens.ruleAt? text = some rule)
    (directed : rule.output.directive? = some directive) :
    chartTokens.ruleAt? text = some ⟨rule.native, directive⟩ := by
  obtain ⟨stands, earlier, later, split, before⟩ := List.find?_eq_some_iff_append.mp found
  have first : displayTokens.find? (fun rule => rule.directed?.any (·.matches text)) =
      some rule := by
    refine List.find?_eq_some_iff_append.mpr ⟨?_, earlier, later, split, ?_⟩
    · simpa [TokenRule.directed?, directed, TokenRule.matches] using stands
    · intro other listed
      have passed : other.matches text = false := by simpa using before other listed
      cases counted : other.directed?.any (·.matches text) with
      | false => rfl
      | true => rw [directed_matches counted] at passed; cases passed
  rw [chart_ruleAt?, first]
  simp [TokenRule.directed?, directed]

theorem scan_chart_half_day (rest : List Char) :
    scan chartTokens ('t' :: 't' :: rest) =
      .literal 't' :: .literal 't' :: scan chartTokens rest := by
  have missed (tail : List Char) : chartTokens.ruleAt? ('t' :: tail) = none :=
    TokenTable.ruleAt?_eq_none no_chart_token_begins_with_t
  rw [scan_of_none (missed _), scan_of_none (missed _)]

/-- A chart reads every pattern as the display does, segment by segment. -/
theorem scan_chart (pattern : List Char) :
    scan chartTokens pattern = (scan displayTokens pattern).flatMap Segment.inChart := by
  induction pattern using scan_induction displayTokens with
  | nil => rfl
  | literal c rest missed ih =>
    rw [scan_of_none missed, scan_of_none (chart_of_display_none missed), ih]
    rfl
  | token text rule found ih =>
    rw [scan_of_rule found, List.flatMap_cons]
    cases directed : rule.output.directive? with
    | some directive =>
      rw [scan_of_rule (chart_of_display_some found directed), ih]
      simp [Segment.inChart, directed]
    | none =>
      obtain ⟨listed, -, rest, front⟩ := TokenTable.ruleAt?_spec found
      rw [native_of_no_directive rule listed directed] at front ih ⊢
      rw [front] at ih ⊢
      have behind : scan chartTokens rest =
          (scan displayTokens rest).flatMap Segment.inChart := ih
      simp only [Segment.inChart, directed]
      exact (scan_chart_half_day rest).trans (by rw [behind]; rfl)

theorem intercalate_append_head {β : Type} (joint front : List β) (run : List β)
    (runs : List (List β)) :
    joint.intercalate ((front ++ run) :: runs) = front ++ joint.intercalate (run :: runs) := by
  cases runs with
  | nil => simp
  | cons next others => simp [List.intercalate_cons_cons]

theorem flatMap_eq_intercalate {α β : Type} [DecidableEq α] (mark : α) (joint : List β)
    (chars : α → List β) (xs : List α) :
    (xs.flatMap fun x => if x = mark then joint else chars x) =
      joint.intercalate ((xs.splitOn mark).map (·.flatMap chars)) := by
  induction xs with
  | nil => rfl
  | cons x rest ih =>
    obtain ⟨run, runs, split⟩ := List.exists_cons_of_ne_nil (List.splitOn_ne_nil mark rest)
    rw [List.flatMap_cons, ih, List.splitOn_cons_eq_if_modifyHead, split]
    by_cases marked : x = mark
    · rw [if_pos marked, if_pos (beq_iff_eq.mpr marked)]
      simp [List.intercalate_cons_cons]
    · rw [if_neg marked, if_neg (by simpa using marked)]
      simp only [List.modifyHead_cons, List.map_cons, List.flatMap_cons]
      rw [intercalate_append_head]

theorem chart_segment (separator : List Char) (segment : Segment DatePart) :
    replaceSlashes separator (segment.inChart.flatMap directiveChars) =
      if segment = .literal '/' then separator else segment.chartChars := by
  cases segment with
  | token part => cases part <;> rfl
  | literal c =>
    by_cases slash : c = '/'
    · simp [slash, Segment.inChart, directiveChars, replaceSlashes]
    · simp [slash, Segment.inChart, directiveChars, replaceSlashes, Segment.chartChars]

/-- The text of a read pattern: the separator for every slash, and its own characters for every other
segment. -/
def textAround (separator : List Char) (chars : Segment DatePart → List Char)
    (segments : List (Segment DatePart)) : List Char :=
  segments.flatMap fun segment => if segment = .literal '/' then separator else chars segment

theorem textAround_joined (separator : List Char) (chars : Segment DatePart → List Char)
    (segments : List (Segment DatePart)) :
    textAround separator chars segments =
      separator.intercalate ((segments.splitOn (.literal '/')).map (·.flatMap chars)) := by
  unfold textAround
  rw [flatMap_eq_intercalate]

theorem replaceSlashes_chartDirectives (separator pattern : List Char) :
    replaceSlashes separator (chartDirectives pattern) =
      textAround separator Segment.chartChars (scan displayTokens pattern) := by
  rw [chartDirectives, scan_chart, List.flatMap_assoc, replaceSlashes, List.flatMap_assoc]
  unfold textAround
  congr 1
  funext segment
  exact chart_segment separator segment

theorem chartFormat_dateTime (format : String) (locale : Locale) :
    chartFormat format .dateTime locale =
      pure (String.ofList (textAround locale.dateSeparator.toList Segment.chartChars
        (scan displayTokens (expandShorthand locale format.toList)))) := by
  rw [chartFormat, chartDateFormat, replaceSlashes_chartDirectives]

theorem displayPattern_eq (locale : Locale) (moment : DateTime) (pattern : List Char) :
    displayPattern locale moment pattern =
      textAround locale.dateSeparator.toList (Segment.ownChars locale moment)
        (scan displayTokens pattern) := by
  unfold displayPattern textAround
  congr 1
  funext segment
  cases segment with
  | token part => simp [displayChars, Segment.ownChars]
  | literal c => simp [displayChars, Segment.ownChars]

theorem expandShorthand_other_separator (locale : Locale) (separator : String)
    (format : List Char) :
    expandShorthand { locale with dateSeparator := separator } format =
      expandShorthand locale format := by
  unfold expandShorthand
  split
  · split
    · rename_i shorthand _
      cases shorthand <;> rfl
    · rfl
  · rfl

theorem ownChars_other_separator (locale : Locale) (separator : String) (moment : DateTime) :
    Segment.ownChars { locale with dateSeparator := separator } moment =
      Segment.ownChars locale moment := by
  funext segment
  cases segment with
  | token part => cases part <;> rfl
  | literal c => rfl

theorem formatDateTime_eq (moment : DateTime) (format : String) (locale : Locale) :
    formatDateTime moment format locale =
      if isUnknownShorthand format.toList then .error (.unsupportedSpecifier format)
      else .ok (String.ofList (textAround locale.dateSeparator.toList
        (Segment.ownChars locale moment)
        (scan displayTokens (expandShorthand locale format.toList)))) := by
  rw [formatDateTime, displayPattern_eq]

/-- Charts read every date pattern as it is displayed. For all formats and locales:

* a chart shows the directive of every token, the two letters of the half of the day, the separator for
  a slash, and every other character as it is;
* a format that is not rejected is displayed from the same segments, with the separator in the same
  places;
* with any separator, both texts are made without it and joined by it as it is. -/
theorem charts_read_patterns_as_displayed :
    (∀ pattern, scan chartTokens pattern = (scan displayTokens pattern).flatMap Segment.inChart) ∧
    ∀ (format : String) (locale : Locale),
      let segments := scan displayTokens (expandShorthand locale format.toList)
      let rejected := isUnknownShorthand format.toList
      chartFormat format .dateTime locale =
        pure (String.ofList (textAround locale.dateSeparator.toList Segment.chartChars segments)) ∧
      (∀ moment, formatDateTime moment format locale =
        if rejected then .error (.unsupportedSpecifier format)
        else .ok (String.ofList (textAround locale.dateSeparator.toList
          (Segment.ownChars locale moment) segments))) ∧
      ∀ separator : String,
        let other := { locale with dateSeparator := separator }
        let runs := segments.splitOn (.literal '/')
        chartFormat format .dateTime other =
          pure (String.ofList (separator.toList.intercalate
            (runs.map (·.flatMap Segment.chartChars)))) ∧
        ∀ moment, formatDateTime moment format other =
          if rejected then .error (.unsupportedSpecifier format)
          else .ok (String.ofList (separator.toList.intercalate
            (runs.map (·.flatMap (Segment.ownChars locale moment))))) := by
  refine ⟨scan_chart, ?_⟩
  intro format locale segments rejected
  refine ⟨chartFormat_dateTime format locale,
    fun moment => formatDateTime_eq moment format locale, ?_⟩
  intro separator other runs
  have same : scan displayTokens (expandShorthand other format.toList) = segments := by
    rw [expandShorthand_other_separator]
  constructor
  · rw [chartFormat_dateTime, same, textAround_joined]
  · intro moment
    have own : Segment.ownChars other moment = Segment.ownChars locale moment :=
      ownChars_other_separator locale separator moment
    rw [formatDateTime_eq, same, own, textAround_joined]

/-- A separator that holds a slash and token letters is shown as it is. -/
example : chartDateFormat "g" { Locale.enUS with dateSeparator := "d/M" } =
    "%md/M%ed/M%Y %I:%M tt" := by
  decide +kernel

end ReportColumns
