import ReportColumns.Proofs.NumberFormat.Integer
/-!
How many digits a plain pattern shows of an integer.

A zero among the digit places always shows a digit, and a hash shows one only where it is significant. For
every zero to have its digit at its own place, there are as many digits before the point as there are
places from the first zero on, and as many behind it as there are places up to the last zero. A section
counts its zeros alone. Both counts agree unless a hash stands behind a zero before the point, or in front
of one behind the point.
-/

namespace ReportColumns

open Decimal

def Glyph.isDigit : Glyph → Bool
  | .char c => c.isDigit
  | .decimalMark | .groupMark => false

def wholeDigits (glyphs : List Glyph) : Nat :=
  (glyphs.takeWhile (· != .decimalMark)).countP (·.isDigit)

def fractionDigits (glyphs : List Glyph) : Nat :=
  (glyphs.dropWhile (· != .decimalMark)).countP (·.isDigit)

/-- The count of digit places from the first zero on. -/
def placesFromZero (part : List Char) : Nat := (part.dropWhile (· != '0')).countP isDigitPlace

/-- The count of digit places up to the last zero. -/
def placesToZero (part : List Char) : Nat :=
  (part.reverse.dropWhile (· != '0')).countP isDigitPlace

theorem countP_isDigitPlace (part : List Char) :
    part.countP isDigitPlace = part.count '0' + part.count '#' := by
  induction part with
  | nil => rfl
  | cons c rest ih =>
    rw [List.countP_cons, List.count_cons, List.count_cons, ih]
    by_cases zero : c = '0'
    · simp [zero, isDigitPlace]
      omega
    · by_cases hash : c = '#'
      · simp [hash, isDigitPlace]
        omega
      · simp [zero, hash, isDigitPlace]

theorem placesFromZero_eq (part : List Char) :
    placesFromZero part = part.count '0' + (part.dropWhile (· != '0')).count '#' := by
  unfold placesFromZero
  induction part with
  | nil => rfl
  | cons c rest ih =>
    by_cases zero : c = '0'
    · rw [zero, List.dropWhile_cons_of_neg (by decide), countP_isDigitPlace]
    · rw [List.dropWhile_cons_of_pos (by simpa using zero), List.count_cons_of_ne zero, ih]

theorem placesToZero_eq (part : List Char) :
    placesToZero part = part.count '0' + (part.reverse.dropWhile (· != '0')).count '#' := by
  have turned := placesFromZero_eq part.reverse
  rwa [List.count_reverse] at turned

theorem countP_groupFrom (count : Nat) (text : List Char) :
    (groupFrom count text).countP (·.isDigit) = text.countP Char.isDigit := by
  induction text generalizing count with
  | nil => rfl
  | cons c rest ih =>
    have mark : (if 1 < count ∧ (count - 1) % 3 = 0 then [Glyph.groupMark] else []).countP
        (·.isDigit) = 0 := by
      split <;> rfl
    have here : (Glyph.char c).isDigit = c.isDigit := rfl
    rw [groupFrom, List.countP_append, List.countP_cons, List.countP_cons, mark, ih, here]
    omega

theorem groupFrom_markless (count : Nat) (text : List Char) :
    .decimalMark ∉ groupFrom count text := by
  induction text generalizing count with
  | nil => exact List.not_mem_nil
  | cons c rest ih =>
    rw [groupFrom]
    split <;> simp [ih]

theorem countP_ofChars (text : List Char) :
    (Glyph.ofChars text).countP (·.isDigit) = text.countP Char.isDigit := by
  rw [Glyph.ofChars, List.countP_map]
  rfl

theorem ofChars_markless (text : List Char) : .decimalMark ∉ Glyph.ofChars text := by
  simp [Glyph.ofChars]

theorem wholeGlyphs_spec (grouped negative : Bool) (whole : List Char) :
    let glyphs := signGlyphs negative ++
      (if grouped then groupThousands whole else Glyph.ofChars whole)
    .decimalMark ∉ glyphs ∧ glyphs.countP (·.isDigit) = whole.countP Char.isDigit := by
  intro glyphs
  have sign : .decimalMark ∉ signGlyphs negative ∧
      (signGlyphs negative).countP (·.isDigit) = 0 := by
    cases negative with
    | false => exact ⟨List.not_mem_nil, rfl⟩
    | true => exact ⟨by decide, by decide⟩
  have digits : .decimalMark ∉ (if grouped then groupThousands whole else Glyph.ofChars whole) ∧
      (if grouped then groupThousands whole else Glyph.ofChars whole).countP (·.isDigit) =
        whole.countP Char.isDigit := by
    cases grouped with
    | false => exact ⟨ofChars_markless whole, countP_ofChars whole⟩
    | true => exact ⟨groupFrom_markless _ whole, countP_groupFrom _ whole⟩
  refine ⟨?_, ?_⟩
  · simp only [glyphs, List.mem_append, not_or]
    exact ⟨sign.1, digits.1⟩
  · simp only [glyphs, List.countP_append, sign.2, digits.2, Nat.zero_add]

theorem digits_of_numeralGlyphs (grouped : Bool) {n : Numeral}
    (whole : ∀ c ∈ n.whole, c.isDigit = true) (fraction : ∀ c ∈ n.fraction, c.isDigit = true) :
    wholeDigits (numeralGlyphs grouped n) = n.whole.length ∧
      fractionDigits (numeralGlyphs grouped n) = n.fraction.length := by
  obtain ⟨markless, counted⟩ := wholeGlyphs_spec grouped n.negative n.whole
  have passed : ∀ glyph ∈ signGlyphs n.negative ++
      (if grouped then groupThousands n.whole else Glyph.ofChars n.whole),
      (glyph != .decimalMark) = true := by
    intro glyph found
    refine bne_iff_ne.mpr ?_
    rintro rfl
    exact markless found
  unfold wholeDigits fractionDigits numeralGlyphs
  rw [List.takeWhile_append_of_pos passed, List.dropWhile_append_of_pos passed,
    List.countP_append, counted, List.countP_eq_length.mpr whole]
  unfold fractionGlyphs
  cases places : n.fraction with
  | nil => exact ⟨rfl, rfl⟩
  | cons c rest =>
    rw [places] at fraction
    have shown := countP_ofChars (c :: rest)
    rw [List.countP_eq_length.mpr fraction] at shown
    exact ⟨rfl, shown⟩

theorem significantDigits_are_digits {n : Nat} {c : Char} (found : c ∈ significantDigits n) :
    c.isDigit = true := by
  unfold significantDigits at found
  split at found
  · cases found
  · exact digits_are_digits found

/-- Before the point the significant digits are filled up to the count of zeros. Behind it there is a
digit for each zero. -/
theorem digits_of_plain {pattern : List Char} {n : Int} (plain : ∀ c ∈ pattern, IsPlain c)
    (placed : pattern.any isDigitPlace = true) (percentless : pattern.count '%' = 0)
    (unscaled : scalesDigits (integerPart pattern) = false) (fits : FitsInt128 n) :
    let glyphs := PatternSection.glyphs (pattern.map plainToken) (.integer n)
    wholeDigits glyphs =
        max (significantDigits n.natAbs).length ((integerPart pattern).count '0') ∧
      fractionDigits glyphs = (fractionPart pattern).count '0' := by
  intro glyphs
  have unmultiplied : hundredfold n (pattern.count '%') = n := by
    rw [percentless, hundredfold_zero]
  have numeral := numeral_plain (n := n) unscaled (by rwa [unmultiplied])
  rw [unmultiplied] at numeral
  have none (part : List Char) (within : part.Sublist pattern) : part.count '%' = 0 :=
    Nat.le_zero.mp (percentless ▸ within.count_le '%')
  have drawn : glyphs = numeralGlyphs (groupsDigits (integerPart pattern))
      (PatternSection.numeral (pattern.map plainToken) (.integer n)) := by
    have shown := PatternSection.glyphs_plain plain placed (.integer n)
    rw [none _ (List.takeWhile_sublist _), none _ (List.dropWhile_sublist _)] at shown
    simpa [Glyph.ofChars] using shown
  have filled : ∀ c ∈ (significantDigits n.natAbs).leftpad ((integerPart pattern).count '0') '0',
      c.isDigit = true := by
    intro c found
    rcases List.mem_append.mp found with zero | digit
    · rw [(List.mem_replicate.mp zero).2]
      decide
    · exact significantDigits_are_digits digit
  have zeros : ∀ c ∈ List.replicate ((fractionPart pattern).count '0') '0', c.isDigit = true := by
    intro c found
    rw [(List.mem_replicate.mp found).2]
    decide
  obtain ⟨whole, fraction⟩ := digits_of_numeralGlyphs (groupsDigits (integerPart pattern))
    (n := PatternSection.numeral (pattern.map plainToken) (.integer n))
    (by rw [numeral]; exact filled) (by rw [numeral]; exact zeros)
  rw [drawn, whole, fraction, numeral, List.length_leftpad, List.length_replicate]
  exact ⟨Nat.max_comm _ _, rfl⟩

/-- What a plain pattern without percent signs or scaling commas shows of a 64-bit integer.

* Before the point there are as many digits as the integer has, or as there are zeros. Behind it there are
  as many as there are zeros.
* Hence every zero before the point has a digit at its own place just when no hash stands behind a zero
  there, or when the integer has digits for all places from the first zero on.
* Every zero behind the point has its own just when no hash stands in front of a zero there. -/
theorem zeros_decide_the_count_of_digits (i : Int64) (locale : Locale) (pattern : List Char)
    (plain : ∀ c ∈ pattern, c ∈ ['0', '#', '.', ','])
    (placed : pattern.any isDigitPlace = true)
    (unscaled : scalesDigits (integerPart pattern) = false) :
    let format := String.ofList pattern
    let amount := Amount.integer i.toInt
    let whole := integerPart pattern
    let fraction := fractionPart pattern
    let significant := (significantDigits i.toInt.natAbs).length
    ∃ glyphs, amountGlyphs format locale.currency amount = .ok glyphs ∧
      formatAmount amount format locale = .ok (String.ofList (writeGlyphs locale glyphs)) ∧
      wholeDigits glyphs = max significant (whole.count '0') ∧
      fractionDigits glyphs = fraction.count '0' ∧
      (wholeDigits glyphs = max significant (placesFromZero whole) ↔
        '#' ∉ whole.dropWhile (· != '0') ∨ placesFromZero whole ≤ significant) ∧
      (fractionDigits glyphs = placesToZero fraction ↔
        '#' ∉ fraction.reverse.dropWhile (· != '0')) := by
  intro format amount whole fraction significant
  have listed : ∀ c ∈ pattern, IsPlain c := by
    intro c found
    have among := plain c found
    simp only [IsPlain, List.mem_cons, List.not_mem_nil, or_false] at among ⊢
    grind
  have percentless : pattern.count '%' = 0 := by
    rw [List.count_eq_zero]
    exact fun found => absurd (plain '%' found) (by decide)
  have given : pattern ≠ [] := by
    rintro rfl
    cases placed
  have fits : FitsInt128 i.toInt := by simpa using int64_fits i
  have drawn := amountGlyphs_plain listed given locale.currency amount
  obtain ⟨before, behind⟩ :
      wholeDigits (PatternSection.glyphs (pattern.map plainToken) amount) =
          max significant (whole.count '0') ∧
        fractionDigits (PatternSection.glyphs (pattern.map plainToken) amount) =
          fraction.count '0' :=
    digits_of_plain listed placed percentless unscaled fits
  refine ⟨_, drawn, formatAmount_of_glyphs drawn, before, behind, ?_, ?_⟩
  · have more := placesFromZero_eq whole
    rw [before, ← List.count_eq_zero]
    omega
  · have more := placesToZero_eq fraction
    rw [behind, ← List.count_eq_zero]
    omega

theorem zeros_decide_the_count_of_digits_in_order :
    "#,#00.0#".toList.any isDigitPlace = true ∧
      scalesDigits (integerPart "#,#00.0#".toList) = false ∧
      ∃ glyphs, amountGlyphs "#,#00.0#" Locale.enUS.currency (.integer 7) = .ok glyphs ∧
        formatAmount (.integer 7) "#,#00.0#" .enUS =
          .ok (String.ofList (writeGlyphs .enUS glyphs)) ∧
        wholeDigits glyphs = 2 ∧ fractionDigits glyphs = 1 := by
  have placed : "#,#00.0#".toList.any isDigitPlace = true := by decide
  have unscaled : scalesDigits (integerPart "#,#00.0#".toList) = false := by decide
  obtain ⟨glyphs, drawn, shown, -, -, whole, fraction⟩ :=
    zeros_decide_the_count_of_digits 7 .enUS "#,#00.0#".toList (by simp) placed unscaled
  exact ⟨placed, unscaled, glyphs, drawn, shown, whole.mpr (Or.inl (by decide)),
    fraction.mpr (by decide)⟩

/-- A hash behind the zero before the point: there are two places from the zero on, and one digit. A hash in
front of the zero behind the point: there are two places up to the zero, and one digit. -/
theorem zero_without_digit_at_its_place :
    (∃ glyphs, amountGlyphs "0#" Locale.enUS.currency (.integer 5) = .ok glyphs ∧
      formatAmount (.integer 5) "0#" .enUS = .ok "5" ∧
      wholeDigits glyphs ≠
        max (significantDigits 5).length (placesFromZero (integerPart "0#".toList))) ∧
    ∃ glyphs, amountGlyphs "0.#0" Locale.enUS.currency (.integer 1) = .ok glyphs ∧
      formatAmount (.integer 1) "0.#0" .enUS = .ok "1.0" ∧
      fractionDigits glyphs ≠ placesToZero (fractionPart "0.#0".toList) := by
  constructor
  · exact ⟨_, rfl, rfl, by decide⟩
  · exact ⟨_, rfl, rfl, by decide⟩

end ReportColumns
