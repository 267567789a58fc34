import ReportColumns.Locale.Preset
import ReportColumns.Proofs.NumberFormat.Grouping
import ReportColumns.Proofs.NumberFormat.Plain
import ReportColumns.Proofs.NumberFormat.Standard
/-!
Integers keep every digit in every format that does not divide them. Their text is described by their
decimal digits, by groups of three and by zeros after the point, without regard to floating point.
-/

namespace ReportColumns

open Decimal

def FitsInt128 (n : Int) : Prop := -(Nat.pow 2 127 : Nat) ≤ n ∧ n < (Nat.pow 2 127 : Nat)

instance (n : Int) : Decidable (FitsInt128 n) := inferInstanceAs (Decidable (_ ∧ _))

def hundredfold (n : Int) (percents : Nat) : Int := n * (Nat.pow 100 percents : Nat)

/-- A minus sign below zero, the digits before the point, and a count of zeros after it. -/
def integerText (locale : Locale) (n : Int) (whole : List Char) (zeros : Nat) : List Char :=
  (if n < 0 then ['-'] else []) ++ whole ++
    (if zeros = 0 then [] else locale.decimalSeparator.toList ++ List.replicate zeros '0')

/-- An unsigned amount beside the currency symbol, in parentheses when the integer is below zero. -/
def currencyText (locale : Locale) (n : Int) (magnitude : List Char) : List Char :=
  let signed :=
    match locale.currencyPosition with
    | .before => locale.currencySymbol.toList ++ magnitude
    | .after => magnitude ++ locale.currencySymbol.toList
  if n < 0 then ['('] ++ signed ++ [')'] else signed

def significantDigits (n : Nat) : List Char := if n = 0 then [] else digits n

@[simp] theorem hundredfold_zero (n : Int) : hundredfold n 0 = n := Int.mul_one n

@[simp] theorem hundredfold_one (n : Int) : hundredfold n 1 = n * 100 := rfl

theorem hundredfold_lt_zero_iff (n : Int) (percents : Nat) :
    hundredfold n percents < 0 ↔ n < 0 := by
  have positive : (0 : Int) < (Nat.pow 100 percents : Nat) :=
    Int.natCast_pos.mpr (Nat.pow_pos (by decide))
  constructor
  · intro below
    refine Int.not_le.mp fun above => ?_
    have product := Int.mul_nonneg above (Int.le_of_lt positive)
    unfold hundredfold at below
    omega
  · intro below
    exact Int.mul_neg_of_neg_of_pos below positive

theorem int128_bound : ((Nat.pow 2 127 : Nat) : Int) = 170141183460469231731687303715884105728 :=
  rfl

theorem fitsExactly_of_fits {n : Int} (fits : FitsInt128 n) : Amount.fitsExactly n = true :=
  Bool.and_eq_true_iff.mpr ⟨decide_eq_true fits.1, decide_eq_true fits.2⟩

theorem scaledNumeral_of_fits {n : Int} {percents : Nat} (places : Nat)
    (fits : FitsInt128 (hundredfold n percents)) :
    (Amount.integer n).scaledNumeral percents 0 places =
      .ofInt (hundredfold n percents) places := by
  have exact : (Amount.integer n).exactScaled? percents 0 = some (hundredfold n percents) := by
    simp only [Amount.exactScaled?]
    exact if_pos ⟨trivial, fitsExactly_of_fits fits⟩
  rw [Amount.scaledNumeral, exact]

theorem int64_scaled_fits (i : Int64) {percents : Nat} (few : percents ≤ 9) :
    FitsInt128 (hundredfold i.toInt percents) := by
  have scale : ((Nat.pow 100 percents : Nat) : Int) ≤ 1000000000000000000 :=
    Int.ofNat_le.mpr (Nat.pow_le_pow_right (by decide : 0 < 100) few)
  have positive : (0 : Int) ≤ (Nat.pow 100 percents : Nat) := Int.natCast_nonneg _
  have low := Int.mul_le_mul_of_nonneg_right i.le_toInt positive
  have high := Int.mul_le_mul_of_nonneg_right (Int.le_of_lt i.toInt_lt) positive
  rw [FitsInt128, int128_bound, hundredfold]
  omega

theorem int64_fits (i : Int64) : FitsInt128 (hundredfold i.toInt 0) :=
  int64_scaled_fits i (by decide)

def wholeText (locale : Locale) (grouped : Bool) (whole : List Char) : List Char :=
  writeGlyphs locale (if grouped then groupThousands whole else Glyph.ofChars whole)

theorem wholeText_grouped (locale : Locale) (whole : List Char) :
    Grouped locale.groupSeparator.toList whole (wholeText locale true whole) :=
  groupThousands_grouped locale whole

theorem wholeText_ungrouped (locale : Locale) (whole : List Char) :
    wholeText locale false whole = whole := writeGlyphs_ofChars locale whole

theorem writeGlyphs_integer (locale : Locale) (grouped : Bool) (n : Int) (whole : List Char)
    (zeros : Nat) :
    writeGlyphs locale (numeralGlyphs grouped ⟨n < 0, whole, List.replicate zeros '0'⟩) =
      integerText locale n (wholeText locale grouped whole) zeros := by
  have sign : writeGlyphs locale (signGlyphs (decide (n < 0))) = if n < 0 then ['-'] else [] := by
    by_cases below : n < 0 <;> simp [below, signGlyphs, writeGlyphs, Glyph.write]
  have fraction : writeGlyphs locale (fractionGlyphs (List.replicate zeros '0')) =
      if zeros = 0 then [] else locale.decimalSeparator.toList ++ List.replicate zeros '0' := by
    cases zeros with
    | zero => rfl
    | succ more =>
      have zerosText := writeGlyphs_ofChars locale (List.replicate (more + 1) '0')
      rw [if_neg (by omega), fractionGlyphs, if_neg (by simp)]
      exact congrArg (locale.decimalSeparator.toList ++ ·) zerosText
  rw [numeralGlyphs, writeGlyphs_append, writeGlyphs_append, sign, fraction]
  rfl

theorem writeGlyphs_scaled (locale : Locale) (grouped : Bool) {n : Int} {percents : Nat}
    (places : Nat) (fits : FitsInt128 (hundredfold n percents)) :
    writeGlyphs locale
        (numeralGlyphs grouped ((Amount.integer n).scaledNumeral percents 0 places)) =
      integerText locale n
        (wholeText locale grouped (digits (hundredfold n percents).natAbs)) places := by
  rw [scaledNumeral_of_fits places fits, Numeral.ofInt, writeGlyphs_integer, integerText,
    integerText]
  simp only [hundredfold_lt_zero_iff]

theorem writeGlyphs_currency (locale : Locale) (n : Int) (places : Nat)
    (fits : FitsInt128 n.natAbs) :
    writeGlyphs locale (currencyGlyphs locale.currency (.integer n) places) =
      currencyText locale n
        (integerText locale n.natAbs (wholeText locale true (digits n.natAbs)) places) := by
  have unscaled : FitsInt128 (hundredfold n.natAbs 0) := by simpa using fits
  have magnitude := writeGlyphs_scaled locale true places unscaled
  simp only [hundredfold_zero, Int.natAbs_natCast] at magnitude
  have symbol := writeGlyphs_ofChars locale locale.currencySymbol.toList
  have paren (c : Char) : writeGlyphs locale [.char c] = [c] := rfl
  unfold currencyGlyphs currencyText
  simp only [Amount.abs, Amount.roundsNegative, Locale.currency, decide_eq_true_eq]
  cases locale.currencyPosition with
  | before => split <;> simp only [writeGlyphs_append, magnitude, symbol, paren]
  | after => split <;> simp only [writeGlyphs_append, magnitude, symbol, paren]

section Letters

variable {p : Nat} {precision : List Char} (small : p ≤ 99) (written : precision ∈ precisionTexts p)
  (i : Int64) (locale : Locale)

def Shows (locale : Locale) (i : Int64) (format text : List Char) : Prop :=
  formatAmount (.integer i.toInt) (String.ofList format) locale = .ok (String.ofList text)

include small written

theorem shows_letter {letter : Char} {specifier : Specifier} {glyphs : List Glyph}
    (alphabetic : letter.isAlpha = true) (known : Specifier.ofLetter? letter = some specifier)
    (drawn : StandardFormat.glyphs ⟨specifier, some p, letter.isLower⟩ locale.currency
      (.integer i.toInt) = glyphs) :
    Shows locale i (letter :: precision) (writeGlyphs locale glyphs) := by
  rw [Shows, formatAmount_letter alphabetic known small written, drawn]
  simp [Amount.hasFraction]

theorem shows_number :
    Shows locale i ('N' :: precision)
      (integerText locale i.toInt (wholeText locale true (digits i.toInt.natAbs)) p) := by
  have drawn := shows_letter small written i locale (by decide)
    (by decide : Specifier.ofLetter? 'N' = some .number) rfl
  have text := writeGlyphs_scaled locale true p (int64_fits i)
  simp only [hundredfold_zero] at text
  rw [← text]
  exact drawn

theorem shows_fixedPoint :
    Shows locale i ('F' :: precision) (integerText locale i.toInt (digits i.toInt.natAbs) p) := by
  have drawn := shows_letter small written i locale (by decide)
    (by decide : Specifier.ofLetter? 'F' = some .fixedPoint) rfl
  have text := writeGlyphs_scaled locale false p (int64_fits i)
  simp only [hundredfold_zero, wholeText_ungrouped] at text
  rw [← text]
  exact drawn

theorem shows_percent :
    Shows locale i ('P' :: precision)
      (integerText locale i.toInt (wholeText locale true (digits (i.toInt * 100).natAbs)) p ++
        ['%']) := by
  have drawn := shows_letter small written i locale (by decide)
    (by decide : Specifier.ofLetter? 'P' = some .percent) rfl
  have text := writeGlyphs_scaled locale true p (int64_scaled_fits i (by decide : 1 ≤ 9))
  simp only [hundredfold_one] at text
  simp only [StandardFormat.glyphs, Option.getD_some, writeGlyphs_append, text] at drawn
  exact drawn

theorem shows_currency :
    Shows locale i ('C' :: precision)
      (currencyText locale i.toInt
        (integerText locale i.toInt.natAbs (wholeText locale true (digits i.toInt.natAbs)) p)) := by
  have drawn := shows_letter small written i locale (by decide)
    (by decide : Specifier.ofLetter? 'C' = some .currency) rfl
  have low := i.le_toInt
  have high := i.toInt_lt
  have fits : FitsInt128 (i.toInt.natAbs : Int) := by
    rw [FitsInt128, int128_bound]
    omega
  rw [← writeGlyphs_currency locale i.toInt p fits]
  exact drawn

theorem shows_decimal :
    Shows locale i ('D' :: precision)
      (integerText locale i.toInt ((digits i.toInt.natAbs).leftpad p '0') 0) := by
  have drawn := shows_letter small written i locale (by decide)
    (by decide : Specifier.ofLetter? 'D' = some .decimal) rfl
  have text := writeGlyphs_integer locale false i.toInt ((digits i.toInt.natAbs).leftpad p '0') 0
  have exact := scaledNumeral_of_fits 0 (int64_fits i)
  simp only [hundredfold_zero] at exact
  rw [wholeText_ungrouped] at text
  rw [← text]
  simp only [StandardFormat.glyphs, decimalGlyphs, exact, Option.getD_some] at drawn
  simpa [numeralGlyphs, fractionGlyphs, Numeral.ofInt] using drawn

omit small written in
theorem shows_general :
    Shows locale i ['G'] (integerText locale i.toInt (digits i.toInt.natAbs) 0) := by
  have text := writeGlyphs_integer locale false i.toInt (digits i.toInt.natAbs) 0
  rw [wholeText_ungrouped] at text
  rw [← text]
  rfl

omit small written in
theorem shows_general_zero (zero : precision ∈ precisionTexts 0) :
    Shows locale i ('G' :: precision) (integerText locale i.toInt (digits i.toInt.natAbs) 0) := by
  have drawn := shows_letter (Nat.zero_le _) zero i locale (by decide)
    (by decide : Specifier.ofLetter? 'G' = some .general) rfl
  have text := writeGlyphs_integer locale false i.toInt (digits i.toInt.natAbs) 0
  rw [wholeText_ungrouped] at text
  rw [← text]
  exact drawn

end Letters

theorem fitWhole_digits (least n : Nat) :
    PatternSection.fitWhole least (digits n) = (significantDigits n).leftpad least '0' := by
  rw [PatternSection.fitWhole, dropWhile_zero_digits]
  rfl

/-- The numeral of an integer under a plain pattern: the digits of the scaled integer, filled up to
the zeros before the point, and as many zeros as there are after it. -/
theorem numeral_plain {pattern : List Char} {n : Int}
    (unscaled : scalesDigits (integerPart pattern) = false)
    (fits : FitsInt128 (hundredfold n (pattern.count '%'))) :
    PatternSection.numeral (pattern.map plainToken) (.integer n) =
      ⟨n < 0,
        (significantDigits (hundredfold n (pattern.count '%')).natAbs).leftpad
          ((integerPart pattern).count '0') '0',
        List.replicate ((fractionPart pattern).count '0') '0'⟩ := by
  have within : (fractionPart pattern).count '0' ≤ (fractionPart pattern).countP isDigitPlace :=
    List.countP_mono_left fun c _ zero => by simp [isDigitPlace, eq_of_beq zero]
  simp only [PatternSection.numeral, PatternSection.percents_plain,
    PatternSection.scalingCommas_plain _ unscaled, PatternSection.leastWhole_plain,
    PatternSection.leastFraction_plain, PatternSection.mostFraction_plain,
    scaledNumeral_of_fits _ fits, Numeral.ofInt, fitWhole_digits,
    PatternSection.trimFraction_zeros within, hundredfold_lt_zero_iff]

theorem shows_pattern {pattern : List Char} (plain : ∀ c ∈ pattern, IsPlain c)
    (placed : pattern.any isDigitPlace = true)
    (unscaled : scalesDigits (integerPart pattern) = false) (i : Int64)
    (fits : FitsInt128 (hundredfold i.toInt (pattern.count '%'))) (locale : Locale) :
    Shows locale i pattern
      (List.replicate ((pattern.takeWhile (!isDigitPlace ·)).count '%') '%' ++
        integerText locale i.toInt
          (wholeText locale (groupsDigits (integerPart pattern))
            ((significantDigits (hundredfold i.toInt (pattern.count '%')).natAbs).leftpad
              ((integerPart pattern).count '0') '0'))
          ((fractionPart pattern).count '0') ++
        List.replicate ((pattern.dropWhile (!isDigitPlace ·)).count '%') '%') := by
  have given : pattern ≠ [] := by
    rintro rfl
    simp at placed
  rw [Shows, formatAmount_plain plain given, PatternSection.glyphs_plain plain placed,
    numeral_plain unscaled fits]
  simp only [writeGlyphs_append, writeGlyphs_ofChars, writeGlyphs_integer]

theorem wholeText_spec (locale : Locale) (grouped : Bool) (whole : List Char) :
    if grouped then Grouped locale.groupSeparator.toList whole (wholeText locale grouped whole)
    else wholeText locale grouped whole = whole := by
  cases grouped with
  | true => exact wholeText_grouped locale whole
  | false => exact wholeText_ungrouped locale whole

/-- Every 64-bit integer keeps all its digits under `N`, `F`, `P`, `C`, `D` and `G`, in every locale
and with every precision, and so it does under every plain pattern whose commas do not scale, as long
as the percent signs keep it within 128 bits. Nine percent signs always do. -/
theorem integers_keep_every_digit (i : Int64) (locale : Locale) (p : Nat) (small : p ≤ 99)
    (precision : List Char) (written : precision ∈ precisionTexts p) :
    let n := i.toInt
    let grouped (m : Int) (whole : List Char) :=
      Grouped locale.groupSeparator.toList (digits m.natAbs) whole
    (∃ whole, grouped n whole ∧
      Shows locale i ('N' :: precision) (integerText locale n whole p)) ∧
    Shows locale i ('F' :: precision) (integerText locale n (digits n.natAbs) p) ∧
    (∃ whole, grouped (n * 100) whole ∧
      Shows locale i ('P' :: precision) (integerText locale n whole p ++ ['%'])) ∧
    (∃ whole, grouped n whole ∧
      Shows locale i ('C' :: precision)
        (currencyText locale n (integerText locale n.natAbs whole p))) ∧
    Shows locale i ('D' :: precision) (integerText locale n ((digits n.natAbs).leftpad p '0') 0) ∧
    Shows locale i ['G'] (integerText locale n (digits n.natAbs) 0) ∧
    (∀ zero ∈ precisionTexts 0,
      Shows locale i ('G' :: zero) (integerText locale n (digits n.natAbs) 0)) ∧
    (∀ pattern : List Char, (∀ c ∈ pattern, c ∈ ['0', '#', '.', ',', '%']) →
      pattern.any isDigitPlace = true → scalesDigits (integerPart pattern) = false →
      let scaled := hundredfold n (pattern.count '%')
      FitsInt128 scaled →
      let shown := (significantDigits scaled.natAbs).leftpad ((integerPart pattern).count '0') '0'
      ∃ whole,
        (if groupsDigits (integerPart pattern) then
          Grouped locale.groupSeparator.toList shown whole else whole = shown) ∧
        Shows locale i pattern
          (List.replicate ((pattern.takeWhile (!isDigitPlace ·)).count '%') '%' ++
            integerText locale n whole ((fractionPart pattern).count '0') ++
            List.replicate ((pattern.dropWhile (!isDigitPlace ·)).count '%') '%')) ∧
    ∀ percents ≤ 9, FitsInt128 (hundredfold n percents) := by
  intro n grouped
  refine ⟨⟨_, wholeText_grouped locale _, shows_number small written i locale⟩,
    shows_fixedPoint small written i locale,
    ⟨_, wholeText_grouped locale _, shows_percent small written i locale⟩,
    ⟨_, wholeText_grouped locale _, shows_currency small written i locale⟩,
    shows_decimal small written i locale, shows_general i locale,
    fun zero listed => shows_general_zero i locale listed, ?_,
    fun percents few => int64_scaled_fits i few⟩
  intro pattern plain placed unscaled scaled fits shown
  exact ⟨_, wholeText_spec locale _ shown, shows_pattern plain placed unscaled i fits locale⟩

theorem integers_keep_every_digit_least :
    2 ≤ 99 ∧ ['2'] ∈ precisionTexts 2 ∧
      Shows .deDE Int64.minValue "F2".toList "-9223372036854775808,00".toList ∧
      ∃ whole, Grouped ['.'] "922337203685477580800".toList whole ∧
        Shows .deDE Int64.minValue "#,##0.0%".toList ('-' :: whole ++ ",0%".toList) := by
  obtain ⟨-, fixed, -, -, -, -, -, patterns, -⟩ :=
    integers_keep_every_digit Int64.minValue .deDE 2 (by decide) ['2'] (by decide)
  obtain ⟨whole, grouped, shown⟩ := patterns "#,##0.0%".toList (by simp) (by decide) (by decide)
    (by decide)
  refine ⟨by decide, by decide, fixed, whole, grouped, ?_⟩
  have written : ['-'] ++ whole ++ (",".toList ++ ['0']) ++ ['%'] =
      '-' :: whole ++ ",0%".toList := by simp
  exact written ▸ shown

end ReportColumns
