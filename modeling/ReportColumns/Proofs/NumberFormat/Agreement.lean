import ReportColumns.Dialect
import ReportColumns.Locale.Preset
import ReportColumns.Proofs.NumberFormat.Plain
import ReportColumns.Proofs.NumberFormat.Standard
/-!
Letters and patterns that show the same text for every amount. A pattern that ends with a count of
zeros after its point shows as many decimals as a letter with that precision.
-/

namespace ReportColumns

open Decimal

def decimalPlaces (p : Nat) : List Char := if p = 0 then [] else '.' :: List.replicate p '0'

/-- The part of a pattern before its decimals: plain, with a zero place, starting at a digit place and
without a percent sign or a scaling comma. -/
structure IsBody (body : List Char) : Prop where
  plain : ∀ c ∈ body, IsPlain c
  undivided : '.' ∉ body
  unscaled : scalesDigits body = false
  starts : body.takeWhile (!isDigitPlace ·) = []
  zero : 0 < body.count '0'
  percentless : body.count '%' = 0

theorem isBody_grouped : IsBody "#,##0".toList where
  plain := by simp [IsPlain]
  undivided := by decide
  unscaled := by decide
  starts := by decide
  zero := by decide
  percentless := by decide

theorem isBody_zeros {count : Nat} (positive : 0 < count) : IsBody (List.replicate count '0') where
  plain := fun c found => (List.mem_replicate.mp found).2 ▸ by decide
  undivided := fun found => absurd (List.mem_replicate.mp found).2 (by decide)
  unscaled := by simp [scalesDigits, isDigitPlace]
  starts := by simp [isDigitPlace]
  zero := by simpa using positive
  percentless := by simp [List.count_replicate]

namespace IsBody

def completed (body : List Char) (p percents : Nat) : List Char :=
  body ++ (decimalPlaces p ++ List.replicate percents '%')

variable {body : List Char} (valid : IsBody body) (p percents : Nat)

include valid

theorem completed_plain : ∀ c ∈ completed body p percents, IsPlain c := by
  intro c found
  rcases List.mem_append.mp found with front | back
  · exact valid.plain c front
  · rcases List.mem_append.mp back with decimal | percent
    · unfold decimalPlaces at decimal
      split at decimal
      · simp at decimal
      · rcases List.mem_cons.mp decimal with rfl | zero
        · decide
        · exact (List.mem_replicate.mp zero).2 ▸ by decide
    · exact (List.mem_replicate.mp percent).2 ▸ by decide

theorem starts_with_place : ∃ place rest, body = place :: rest ∧ isDigitPlace place = true := by
  have given := valid.zero
  have starts := valid.starts
  cases body with
  | nil => simp at given
  | cons place rest =>
    refine ⟨place, rest, rfl, ?_⟩
    cases held : isDigitPlace place with
    | true => rfl
    | false => simp [held] at starts

theorem not_point (c : Char) (found : c ∈ body) : (c != '.') = true :=
  bne_iff_ne.mpr fun point => valid.undivided (point ▸ found)

theorem integerPart_completed :
    integerPart (completed body p percents) =
      body ++ (if p = 0 then List.replicate percents '%' else []) := by
  unfold integerPart completed
  rw [List.takeWhile_append_of_pos valid.not_point]
  congr 1
  unfold decimalPlaces
  split <;> simp

theorem fractionPart_completed :
    fractionPart (completed body p percents) =
      if p = 0 then [] else List.replicate p '0' ++ List.replicate percents '%' := by
  unfold fractionPart completed
  rw [List.dropWhile_append_of_pos valid.not_point]
  unfold decimalPlaces
  split <;> simp

theorem scalesDigits_percents : scalesDigits (body ++ List.replicate percents '%') = false := by
  obtain ⟨place, rest, front, held⟩ := valid.starts_with_place
  have placed : body.any isDigitPlace = true := by simp [front, held]
  have last := valid.unscaled
  rw [scalesDigits, placed, Bool.true_and] at last
  rw [scalesDigits, List.reverse_append, List.reverse_replicate,
    List.takeWhile_append_of_pos fun c found => by
      rw [(List.mem_replicate.mp found).2]
      rfl,
    List.getLast?_append]
  cases run : (body.reverse.takeWhile (!isDigitPlace ·)).getLast? with
  | none => cases percents <;> simp [List.getLast?_replicate]
  | some c =>
    rw [run] at last
    simp_all

omit valid in
theorem groupsDigits_percents : groupsDigits (body ++ List.replicate percents '%') =
    groupsDigits body := by
  have loose : (List.replicate percents '%').dropWhile (· != ',') = [] := by simp
  have placeless : (List.replicate percents '%').any isDigitPlace = false := by
    simp [isDigitPlace]
  unfold groupsDigits
  rw [List.dropWhile_append]
  split
  · rename_i none
    rw [List.isEmpty_iff.mp none, loose]
  · rw [List.any_append, placeless, Bool.or_false]

theorem integerPart_cases :
    integerPart (completed body p percents) = body ∨
      integerPart (completed body p percents) = body ++ List.replicate percents '%' := by
  rw [valid.integerPart_completed]
  by_cases zero : p = 0
  · exact Or.inr (by rw [if_pos zero])
  · exact Or.inl (by rw [if_neg zero, List.append_nil])

theorem count_percent_completed : (completed body p percents).count '%' = percents := by
  have decimals : (decimalPlaces p).count '%' = 0 := by
    unfold decimalPlaces
    split <;> simp [List.count_replicate]
  simp [completed, List.count_append, valid.percentless, decimals]

theorem count_zero_integerPart :
    (integerPart (completed body p percents)).count '0' = body.count '0' := by
  rcases valid.integerPart_cases p percents with whole | whole <;>
    simp [whole, List.count_append, List.count_replicate]

theorem count_fractionPart :
    (fractionPart (completed body p percents)).count '0' = p ∧
      (fractionPart (completed body p percents)).countP isDigitPlace = p := by
  rw [valid.fractionPart_completed]
  by_cases zero : p = 0
  · simp [zero]
  · simp [zero, List.count_append, List.count_replicate, List.countP_replicate, isDigitPlace]

theorem scalesDigits_integerPart :
    scalesDigits (integerPart (completed body p percents)) = false := by
  rcases valid.integerPart_cases p percents with whole | whole
  · rw [whole, valid.unscaled]
  · rw [whole, valid.scalesDigits_percents]

theorem groupsDigits_integerPart :
    groupsDigits (integerPart (completed body p percents)) = groupsDigits body := by
  rcases valid.integerPart_cases p percents with whole | whole
  · rw [whole]
  · rw [whole, groupsDigits_percents]

theorem numeral_completed (amount : Amount) :
    PatternSection.numeral ((completed body p percents).map plainToken) amount =
      { amount.scaledNumeral percents 0 p with
        whole := (amount.scaledNumeral percents 0 p).whole.leftpad (body.count '0') '0' } := by
  have canonical := amount.scaledNumeral_canonical percents 0 p
  obtain ⟨least, most⟩ := valid.count_fractionPart p percents
  simp only [PatternSection.numeral, PatternSection.percents_plain,
    PatternSection.scalingCommas_plain _ (valid.scalesDigits_integerPart p percents),
    PatternSection.leastWhole_plain, PatternSection.leastFraction_plain,
    PatternSection.mostFraction_plain, valid.count_percent_completed,
    valid.count_zero_integerPart, least, most]
  rw [PatternSection.fitWhole_canonical canonical valid.zero,
    PatternSection.trimFraction_of_length_le canonical.fraction]

theorem glyphs_completed (amount : Amount) :
    PatternSection.glyphs ((completed body p percents).map plainToken) amount =
      numeralGlyphs (groupsDigits body)
        { amount.scaledNumeral percents 0 p with
          whole := (amount.scaledNumeral percents 0 p).whole.leftpad (body.count '0') '0' } ++
        Glyph.ofChars (List.replicate percents '%') := by
  obtain ⟨place, rest, front, held⟩ := valid.starts_with_place
  have shown : completed body p percents =
      place :: (rest ++ (decimalPlaces p ++ List.replicate percents '%')) := by
    rw [completed, front]
    rfl
  have before : (completed body p percents).takeWhile (!isDigitPlace ·) = [] := by
    rw [shown, List.takeWhile_cons_of_neg (by simp [held])]
  have after : (completed body p percents).dropWhile (!isDigitPlace ·) =
      completed body p percents := by
    rw [shown, List.dropWhile_cons_of_neg (by simp [held])]
  have placed : (completed body p percents).any isDigitPlace = true := by
    simp [shown, held]
  rw [PatternSection.glyphs_plain (valid.completed_plain p percents) placed, before, after,
    valid.groupsDigits_integerPart, valid.numeral_completed, valid.count_percent_completed]
  rfl

theorem formatAmount_completed (amount : Amount) (locale : Locale) :
    formatAmount amount (String.ofList (completed body p percents)) locale =
      .ok (String.ofList (writeGlyphs locale (numeralGlyphs (groupsDigits body)
        { amount.scaledNumeral percents 0 p with
          whole := (amount.scaledNumeral percents 0 p).whole.leftpad (body.count '0') '0' } ++
        Glyph.ofChars (List.replicate percents '%')))) := by
  have given : completed body p percents ≠ [] := by
    obtain ⟨place, rest, front, -⟩ := valid.starts_with_place
    simp [completed, front]
  rw [formatAmount_plain (valid.completed_plain p percents) given, valid.glyphs_completed]

end IsBody

variable {p : Nat} {precision : List Char}

theorem leftpad_scaledNumeral (amount : Amount) (percents places : Nat) :
    { amount.scaledNumeral percents 0 places with
      whole := (amount.scaledNumeral percents 0 places).whole.leftpad 1 '0' } =
      amount.scaledNumeral percents 0 places := by
  have canonical := amount.scaledNumeral_canonical percents 0 places
  have long : 1 ≤ (amount.scaledNumeral percents 0 places).whole.length := by
    rcases canonical.whole with zero | ⟨first, rest, front, -⟩
    · simp [zero]
    · simp [front]
  rw [leftpad_of_length_le long]

theorem completed_without_percents (body : List Char) (p : Nat) :
    IsBody.completed body p 0 = body ++ decimalPlaces p := by
  simp [IsBody.completed]

/-- A letter agrees with a pattern with one zero before its decimals when both show the same digits in
the same groups before the percent signs. -/
theorem letter_agrees {letter : Char} {specifier : Specifier} {body : List Char} {percents : Nat}
    {amount : Amount} {locale : Locale} (alphabetic : letter.isAlpha = true)
    (known : Specifier.ofLetter? letter = some specifier) (total : specifier ≠ .decimal)
    (small : p ≤ 99) (written : precision ∈ precisionTexts p) (valid : IsBody body)
    (one : body.count '0' = 1)
    (drawn : StandardFormat.glyphs ⟨specifier, some p, letter.isLower⟩ locale.currency amount =
      numeralGlyphs (groupsDigits body) (amount.scaledNumeral percents 0 p) ++
        Glyph.ofChars (List.replicate percents '%')) :
    formatAmount amount (String.ofList (letter :: precision)) locale =
      formatAmount amount (String.ofList (IsBody.completed body p percents)) locale := by
  have pattern := valid.formatAmount_completed p percents amount locale
  rw [one, leftpad_scaledNumeral] at pattern
  rw [pattern, formatAmount_letter alphabetic known small written,
    if_neg fun rejected => total rejected.1, drawn]

theorem number_agrees (small : p ≤ 99) (written : precision ∈ precisionTexts p) (amount : Amount)
    (locale : Locale) :
    formatAmount amount (String.ofList ('N' :: precision)) locale =
      formatAmount amount (String.ofList ("#,##0".toList ++ decimalPlaces p)) locale := by
  have grouped : groupsDigits "#,##0".toList = true := by decide
  rw [← completed_without_percents]
  refine letter_agrees (by decide) (by decide : Specifier.ofLetter? 'N' = some .number) (by decide)
    small written isBody_grouped (by decide) ?_
  rw [grouped]
  simp [StandardFormat.glyphs, Glyph.ofChars]

theorem fixedPoint_agrees (small : p ≤ 99) (written : precision ∈ precisionTexts p)
    (amount : Amount) (locale : Locale) :
    formatAmount amount (String.ofList ('F' :: precision)) locale =
      formatAmount amount (String.ofList ('0' :: decimalPlaces p)) locale := by
  have ungrouped : groupsDigits (List.replicate 1 '0') = false := by decide
  have completed : IsBody.completed (List.replicate 1 '0') p 0 = '0' :: decimalPlaces p :=
    completed_without_percents ..
  rw [← completed]
  refine letter_agrees (by decide) (by decide : Specifier.ofLetter? 'F' = some .fixedPoint)
    (by decide) small written (isBody_zeros Nat.one_pos) (by decide) ?_
  rw [ungrouped]
  simp [StandardFormat.glyphs, Glyph.ofChars]

theorem percent_agrees (small : p ≤ 99) (written : precision ∈ precisionTexts p)
    (amount : Amount) (locale : Locale) :
    formatAmount amount (String.ofList ('P' :: precision)) locale =
      formatAmount amount (String.ofList ("#,##0".toList ++ decimalPlaces p ++ ['%'])) locale := by
  have grouped : groupsDigits "#,##0".toList = true := by decide
  have completed : IsBody.completed "#,##0".toList p 1 =
      "#,##0".toList ++ decimalPlaces p ++ ['%'] := by
    rw [IsBody.completed, List.replicate_one, List.append_assoc]
  rw [← completed]
  refine letter_agrees (by decide) (by decide : Specifier.ofLetter? 'P' = some .percent)
    (by decide) small written isBody_grouped (by decide) ?_
  rw [grouped]
  simp [StandardFormat.glyphs, Glyph.ofChars]

theorem numeralGlyphs_eq_decimalGlyphs (amount : Amount) (width : Nat) :
    numeralGlyphs false { amount.scaledNumeral 0 0 0 with
      whole := (amount.scaledNumeral 0 0 0).whole.leftpad (max width 1) '0' } =
      decimalGlyphs amount width := by
  have canonical := amount.scaledNumeral_canonical 0 0 0
  have none : (amount.scaledNumeral 0 0 0).fraction = [] :=
    List.length_eq_zero_iff.mp (Nat.le_zero.mp canonical.fraction)
  have given : (amount.scaledNumeral 0 0 0).whole ≠ [] := by
    rcases canonical.whole with zero | ⟨first, rest, front, -⟩
    · simp [zero]
    · simp [front]
  rw [leftpad_max_one given]
  simp [numeralGlyphs, decimalGlyphs, none, fractionGlyphs]

theorem decimal_agrees (small : p ≤ 99) (written : precision ∈ precisionTexts p)
    (amount : Amount) (locale : Locale) :
    formatAmount amount (String.ofList ('D' :: precision)) locale =
      if amount.hasFraction then .error (.integralOnly (String.ofList ('D' :: precision)))
      else formatAmount amount (String.ofList (List.replicate (max p 1) '0')) locale := by
  have positive : 0 < max p 1 := by omega
  have pattern := (isBody_zeros positive).formatAmount_completed 0 0 amount locale
  have width : (List.replicate (max p 1) '0').count '0' = max p 1 := by simp
  have grouped : groupsDigits (List.replicate (max p 1) '0') = false := by simp [groupsDigits]
  have body : IsBody.completed (List.replicate (max p 1) '0') 0 0 =
      List.replicate (max p 1) '0' := by simp [IsBody.completed, decimalPlaces]
  rw [body, width, grouped, numeralGlyphs_eq_decimalGlyphs] at pattern
  rw [pattern, formatAmount_letter (by decide)
    (by decide : Specifier.ofLetter? 'D' = some .decimal) small written]
  cases amount.hasFraction <;> simp [StandardFormat.glyphs, Glyph.ofChars]

theorem spreadsheet_agrees {native spreadsheet : String} (small : p ≤ 99)
    (letter : native = String.ofList ('N' :: digits p))
    (pattern : spreadsheet = String.ofList ("#,##0".toList ++ decimalPlaces p))
    (amount : Amount) (locale : Locale) :
    formatAmount amount spreadsheet locale = formatAmount amount native locale := by
  rw [letter, pattern, number_agrees small (by simp [precisionTexts])]

/-- Letters with a precision and patterns with as many decimals show the same text for every amount in
every locale, and so do the native and the spreadsheet forms of the table's plain and grouped
numbers. `D` shows whole numbers alone. -/
theorem letters_agree_with_patterns (amount : Amount) (locale : Locale) (p : Nat) (small : p ≤ 99)
    (precision : List Char) (written : precision ∈ precisionTexts p) :
    let render (format : List Char) := formatAmount amount (String.ofList format) locale
    (∃ text, render ('N' :: precision) = .ok text ∧
      render ("#,##0".toList ++ decimalPlaces p) = .ok text) ∧
    (∃ text, render ('F' :: precision) = .ok text ∧
      render ('0' :: decimalPlaces p) = .ok text) ∧
    (∃ text, render ('P' :: precision) = .ok text ∧
      render ("#,##0".toList ++ decimalPlaces p ++ ['%']) = .ok text) ∧
    (∃ text, render (List.replicate (max p 1) '0') = .ok text ∧
      render ('D' :: precision) =
        if amount.hasFraction then .error (.integralOnly (String.ofList ('D' :: precision)))
        else .ok text) ∧
    ∀ native ∈ ["0", "N0", "N1", "N2", "N3", "N4"],
      (numericEquivalent? native).isSome = true ∧
        formatAmount amount (spreadsheetFormat native .numeric locale) locale =
          formatAmount amount native locale := by
  intro render
  have number := number_agrees small written amount locale
  have fixedPoint := fixedPoint_agrees small written amount locale
  have percent := percent_agrees small written amount locale
  have decimal := decimal_agrees small written amount locale
  obtain ⟨numberText, shownNumber⟩ := formatAmount_letter_ok (by decide)
    (by decide : Specifier.ofLetter? 'N' = some .number) small written amount locale (by decide)
  obtain ⟨fixedText, shownFixed⟩ := formatAmount_letter_ok (by decide)
    (by decide : Specifier.ofLetter? 'F' = some .fixedPoint) small written amount locale (by decide)
  obtain ⟨percentText, shownPercent⟩ := formatAmount_letter_ok (by decide)
    (by decide : Specifier.ofLetter? 'P' = some .percent) small written amount locale (by decide)
  obtain ⟨zerosText, shownZeros⟩ : ∃ text, render (List.replicate (max p 1) '0') = .ok text :=
    ⟨_, formatAmount_plain (isBody_zeros (by omega)).plain (by simp) amount locale⟩
  refine ⟨⟨numberText, shownNumber, number.symm.trans shownNumber⟩,
    ⟨fixedText, shownFixed, fixedPoint.symm.trans shownFixed⟩,
    ⟨percentText, shownPercent, percent.symm.trans shownPercent⟩,
    ⟨zerosText, shownZeros, decimal.trans (by rw [← shownZeros])⟩, fun native listed => ?_⟩
  simp only [List.mem_cons, List.not_mem_nil, or_false] at listed
  rcases listed with rfl | rfl | rfl | rfl | rfl | rfl
  · exact ⟨by decide, rfl⟩
  · exact ⟨by decide, spreadsheet_agrees (p := 0) (by decide) rfl rfl amount locale⟩
  · exact ⟨by decide, spreadsheet_agrees (p := 1) (by decide) rfl rfl amount locale⟩
  · exact ⟨by decide, spreadsheet_agrees (p := 2) (by decide) rfl rfl amount locale⟩
  · exact ⟨by decide, spreadsheet_agrees (p := 3) (by decide) rfl rfl amount locale⟩
  · exact ⟨by decide, spreadsheet_agrees (p := 4) (by decide) rfl rfl amount locale⟩

theorem letters_agree_with_patterns_three_decimals :
    3 ≤ 99 ∧ ['0', '3'] ∈ precisionTexts 3 ∧
      formatAmount (.integer (-1234567)) "#,##0.000" .deDE = .ok "-1.234.567,000" := by
  obtain ⟨⟨text, letter, pattern⟩, -⟩ := letters_agree_with_patterns (.integer (-1234567)) .deDE 3
    (by decide) ['0', '3'] (by decide)
  have shown : formatAmount (.integer (-1234567)) "N03" .deDE = .ok "-1.234.567,000" := rfl
  exact ⟨by decide, by decide, pattern.trans (letter.symm.trans shown)⟩

end ReportColumns
