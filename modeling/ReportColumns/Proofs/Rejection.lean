import ReportColumns.Locale.Preset
import ReportColumns.Proofs.Decimal.Whole
import ReportColumns.Proofs.Element.Access
import ReportColumns.Proofs.NumberFormat.Standard
/-!
The formats that are rejected, and what is shown in their place.

Only a letter can be rejected: with digits after it for a number, alone for a date. Every other format is
rendered, and a rejected one leaves the default text of the value and one line in the log.
-/

namespace ReportColumns

open Decimal

/-- Why a number does not take a letter: first the count of digits is looked at, then the letter, then the
number. -/
inductive LetterRejected (fractional : Prop) (format : String) (letter : Char) (digits : List Char) :
    FormatError → Prop where
  | precision (long : 2 < digits.length) :
      LetterRejected fractional format letter digits (.precisionOutOfRange format)
  | specifier (short : digits.length ≤ 2) (unknown : letter ∉ "NDFPCEGndfpceg".toList) :
      LetterRejected fractional format letter digits (.unsupportedSpecifier format)
  | integral (short : digits.length ≤ 2) (integers : letter ∈ "Dd".toList) (divided : fractional) :
      LetterRejected fractional format letter digits (.integralOnly format)

inductive Rejected (format : String) : Value → FormatError → Prop where
  | number {x : Float} {letter : Char} {digits : List Char} {cause : FormatError}
      (meant : LetterFormat format letter digits)
      (rejected : LetterRejected (¬ (Binary.ofFloat x).IsWhole) format letter digits cause) :
      Rejected format (.number x) cause
  | integer {n : Int64} {letter : Char} {digits : List Char} {cause : FormatError}
      (meant : LetterFormat format letter digits)
      (rejected : LetterRejected False format letter digits cause) :
      Rejected format (.integer n) cause
  | shorthand {moment : DateTime} {letter : Char} (meant : LetterFormat format letter [])
      (unknown : letter ∉ "dDtTgGfF".toList) :
      Rejected format (.dateTime moment) (.unsupportedSpecifier format)

namespace LetterRejected

variable {fractional : Prop} {format : String} {letter : Char} {digits : List Char}
  {cause : FormatError}

theorem iff_of_long (long : 2 < digits.length) :
    LetterRejected fractional format letter digits cause ↔ cause = .precisionOutOfRange format := by
  constructor
  · intro rejected
    cases rejected with
    | precision => rfl
    | specifier short => omega
    | integral short => omega
  · rintro rfl
    exact .precision long

theorem iff_of_unknown (short : digits.length ≤ 2) (unknown : letter ∉ "NDFPCEGndfpceg".toList) :
    LetterRejected fractional format letter digits cause ↔ cause = .unsupportedSpecifier format := by
  constructor
  · intro rejected
    cases rejected with
    | precision long => omega
    | specifier => rfl
    | integral _ integers =>
      have known : ∀ c ∈ "Dd".toList, c ∈ "NDFPCEGndfpceg".toList := by simp
      exact absurd (known letter integers) unknown
  · rintro rfl
    exact .specifier short unknown

theorem iff_of_known (short : digits.length ≤ 2) (known : letter ∈ "NDFPCEGndfpceg".toList) :
    LetterRejected fractional format letter digits cause ↔
      cause = .integralOnly format ∧ letter ∈ "Dd".toList ∧ fractional := by
  constructor
  · intro rejected
    cases rejected with
    | precision long => omega
    | specifier _ unknown => exact absurd known unknown
    | integral _ integers divided => exact ⟨rfl, integers, divided⟩
  · rintro ⟨rfl, integers, divided⟩
    exact .integral short integers divided

theorem named (rejected : LetterRejected fractional format letter digits cause) :
    cause = .precisionOutOfRange format ∨ cause = .unsupportedSpecifier format ∨
      cause = .integralOnly format := by
  cases rejected with
  | precision => exact Or.inl rfl
  | specifier => exact Or.inr (Or.inl rfl)
  | integral => exact Or.inr (Or.inr rfl)

end LetterRejected

theorem Specifier.ofLetter?_eq_none_iff {letter : Char} (alphabetic : letter.isAlpha = true) :
    Specifier.ofLetter? letter = none ↔ letter ∉ "NDFPCEGndfpceg".toList := by
  refine Text.ascii_induction (motive := fun letter =>
    Specifier.ofLetter? letter = none ↔ letter ∉ "NDFPCEGndfpceg".toList) ?_
    (Text.ascii_of_isAlpha alphabetic)
  decide

theorem Specifier.ofLetter?_eq_decimal_iff {letter : Char} (alphabetic : letter.isAlpha = true) :
    Specifier.ofLetter? letter = some .decimal ↔ letter ∈ "Dd".toList := by
  refine Text.ascii_induction (motive := fun letter =>
    Specifier.ofLetter? letter = some .decimal ↔ letter ∈ "Dd".toList) ?_
    (Text.ascii_of_isAlpha alphabetic)
  decide

theorem Shorthand.ofLetter?_eq_none_iff {letter : Char} :
    Shorthand.ofLetter? letter = none ↔ letter ∉ "dDtTgGfF".toList := by
  have letters : "dDtTgGfF".toList = Shorthand.all.map Shorthand.letter := by decide
  rw [letters, Shorthand.ofLetter?, List.find?_eq_none]
  simp

theorem error_eq_iff {ε α : Type} {cause other : ε} :
    (.error other : Except ε α) = .error cause ↔ cause = other := by
  rw [Except.error.injEq, eq_comm]

variable {format : String} {letter : Char} {digits : List Char} {cause : FormatError}

theorem parse_of_not_letter (free : ∀ letter digits, ¬ LetterFormat format letter digits) :
    ∃ parsed, NumberFormat.parse format = .ok parsed ∧ parsed.isIntegral = false := by
  unfold NumberFormat.parse
  split
  · exact ⟨_, rfl, rfl⟩
  · rename_i letter rest spelled
    have other : ¬ (letter.isAlpha && rest.all Char.isDigit) = true := by
      intro meant
      obtain ⟨alphabetic, digits⟩ := Bool.and_eq_true_iff.mp meant
      exact free letter rest ⟨spelled, alphabetic, List.all_eq_true.mp digits⟩
    rw [if_neg other]
    exact ⟨_, rfl, rfl⟩

theorem amountGlyphs_eq_error_iff (meant : LetterFormat format letter digits) (currency : Currency)
    (amount : Amount) :
    amountGlyphs format currency amount = .error cause ↔
      LetterRejected (amount.hasFraction = true) format letter digits cause := by
  have parsed := meant.parse
  -- The checks come in this order: the count of digits, the letter, and only then the amount.
  by_cases long : 2 < digits.length
  · rw [if_pos long] at parsed
    rw [LetterRejected.iff_of_long long, amountGlyphs, parsed]
    exact error_eq_iff
  · have short : digits.length ≤ 2 := by omega
    rw [if_neg long] at parsed
    cases known : Specifier.ofLetter? letter with
    | none =>
      have unknown := (Specifier.ofLetter?_eq_none_iff meant.letter).mp known
      rw [known] at parsed
      rw [LetterRejected.iff_of_unknown short unknown, amountGlyphs, parsed]
      exact error_eq_iff
    | some specifier =>
      have standard : letter ∈ "NDFPCEGndfpceg".toList := by
        by_contra unknown
        rw [(Specifier.ofLetter?_eq_none_iff meant.letter).mpr unknown] at known
        cases known
      have integral : specifier = .decimal ↔ letter ∈ "Dd".toList := by
        rw [← Specifier.ofLetter?_eq_decimal_iff meant.letter, known, Option.some.injEq]
      rw [known] at parsed
      rw [LetterRejected.iff_of_known short standard, amountGlyphs_of_parse parsed,
        NumberFormat.isIntegral_standard, ← integral]
      by_cases refused : specifier = .decimal ∧ amount.hasFraction = true
      · rw [if_pos (by simpa using refused)]
        exact error_eq_iff.trans (and_iff_left refused).symm
      · rw [if_neg (by simpa using refused)]
        constructor
        · intro failed
          cases failed
        · intro rejected
          exact absurd rejected.2 refused

theorem map_eq_error_iff {ε α β : Type} {f : α → β} {result : Except ε α} {cause : ε} :
    result.map f = .error cause ↔ result = .error cause := by
  cases result with
  | error other => exact error_eq_iff.trans error_eq_iff.symm
  | ok a => exact ⟨nofun, nofun⟩

theorem formatAmount_eq_error_iff (amount : Amount) (format : String) (locale : Locale)
    (cause : FormatError) :
    formatAmount amount format locale = .error cause ↔
      ∃ letter digits, LetterFormat format letter digits ∧
        LetterRejected (amount.hasFraction = true) format letter digits cause := by
  rw [formatAmount, map_eq_error_iff]
  constructor
  · intro failed
    by_cases meant : ∃ letter digits, LetterFormat format letter digits
    · obtain ⟨letter, digits, meant⟩ := meant
      exact ⟨letter, digits, meant, (amountGlyphs_eq_error_iff meant ..).mp failed⟩
    · -- What is no letter is read as the general format or as a pattern, and both take any number.
      simp only [not_exists] at meant
      obtain ⟨parsed, read, unbounded⟩ := parse_of_not_letter meant
      rw [amountGlyphs_of_parse read, unbounded] at failed
      cases failed
  · rintro ⟨letter, digits, meant, rejected⟩
    exact (amountGlyphs_eq_error_iff meant ..).mpr rejected

theorem isUnknownShorthand_iff (format : List Char) :
    isUnknownShorthand format = true ↔
      ∃ letter, format = [letter] ∧ letter.isAlpha = true ∧ letter ∉ "dDtTgGfF".toList := by
  unfold isUnknownShorthand
  split
  · rename_i letter
    rw [Bool.and_eq_true, Option.isNone_iff_eq_none, Shorthand.ofLetter?_eq_none_iff]
    constructor
    · intro unknown
      exact ⟨letter, rfl, unknown⟩
    · rintro ⟨other, alone, unknown⟩
      cases alone
      exact unknown
  · rename_i other
    constructor
    · intro unknown
      cases unknown
    · rintro ⟨letter, alone, -⟩
      exact absurd alone (other letter)

theorem formatDateTime_eq_error_iff (moment : DateTime) (format : String) (locale : Locale)
    (cause : FormatError) :
    formatDateTime moment format locale = .error cause ↔
      cause = .unsupportedSpecifier format ∧
        ∃ letter, LetterFormat format letter [] ∧ letter ∉ "dDtTgGfF".toList := by
  have letters : isUnknownShorthand format.toList = true ↔
      ∃ letter, LetterFormat format letter [] ∧ letter ∉ "dDtTgGfF".toList := by
    rw [isUnknownShorthand_iff]
    constructor
    · rintro ⟨letter, alone, alphabetic, unknown⟩
      exact ⟨letter, ⟨alone, alphabetic, List.forall_mem_nil _⟩, unknown⟩
    · rintro ⟨letter, meant, unknown⟩
      exact ⟨letter, meant.spelled, meant.letter, unknown⟩
  unfold formatDateTime
  split
  · rename_i unknown
    exact error_eq_iff.trans (and_iff_left (letters.mp unknown)).symm
  · rename_i known
    constructor
    · intro failed
      cases failed
    · rintro ⟨-, unknown⟩
      exact absurd (letters.mpr unknown) known

theorem formatValue_eq_error_iff (value : Value) (format : String) (locale : Locale)
    (cause : FormatError) :
    formatValue value format locale = .error cause ↔ Rejected format value cause := by
  cases value with
  | empty => exact ⟨nofun, nofun⟩
  | text s => exact ⟨nofun, nofun⟩
  | boolean b => exact ⟨nofun, nofun⟩
  | number x =>
    have fractional : (Amount.float x).hasFraction = true ↔ ¬ (Binary.ofFloat x).IsWhole :=
      hasFraction_iff _
    rw [formatValue, formatAmount_eq_error_iff, propext fractional]
    constructor
    · rintro ⟨letter, digits, meant, rejected⟩
      exact .number meant rejected
    · intro rejected
      cases rejected with
      | number meant rejected => exact ⟨_, _, meant, rejected⟩
  | integer n =>
    have fractional : (Amount.integer n.toInt).hasFraction = true ↔ False := iff_of_false nofun id
    rw [formatValue, formatAmount_eq_error_iff, propext fractional]
    constructor
    · rintro ⟨letter, digits, meant, rejected⟩
      exact .integer meant rejected
    · intro rejected
      cases rejected with
      | integer meant rejected => exact ⟨_, _, meant, rejected⟩
  | dateTime moment =>
    rw [formatValue, formatDateTime_eq_error_iff]
    constructor
    · rintro ⟨rfl, letter, meant, unknown⟩
      exact .shorthand meant unknown
    · intro rejected
      cases rejected with
      | shorthand meant unknown => exact ⟨rfl, _, meant, unknown⟩

theorem formatValueOrDefault_eq (value : Value) (format : String) (locale : Locale) :
    (∃ text, formatValue value format locale = .ok text ∧
      formatValueOrDefault value format locale = ⟨text, []⟩) ∨
    ∃ cause, Rejected format value cause ∧ formatValueOrDefault value format locale =
      ⟨value.defaultText, [⟨.debug, .format, cause.message ++ ", using raw value"⟩]⟩ := by
  unfold formatValueOrDefault
  split
  · rename_i text shown
    exact Or.inl ⟨text, shown, rfl⟩
  · rename_i cause failed
    exact Or.inr ⟨cause, (formatValue_eq_error_iff ..).mp failed, rfl⟩

namespace Element

theorem displayValue_eq (e : Element) (value : Value) (locale : Locale) :
    e.displayValue value locale = formatValueOrDefault value e.effectiveFormat locale := by
  cases value with
  | number | integer | dateTime => rfl
  | empty | text | boolean => rfl

theorem settle_logs_catalog_lines (catalogs : CatalogStore) (e : Element) :
    ∀ line ∈ (e.settle catalogs).lines, line.topic = .catalog := by
  unfold settle
  split
  · exact List.forall_mem_nil _
  · rw [Logged.lines_bind, Logged.lines_pure, List.append_nil]
    unfold lookUp
    split
    · exact List.forall_mem_nil _
    · exact List.forall_mem_nil _
    · exact List.forall_mem_singleton.mpr rfl

theorem ask_displayValue (catalogs : CatalogStore) (e : Element) (value : Value) (locale : Locale) :
    let shown := formatValueOrDefault value (e.settle catalogs).value.effectiveFormat locale
    let answer := (Query.displayValue value locale).ask catalogs e
    answer.value.1 = shown.value ∧
      ∃ looked, answer.lines = looked ++ shown.lines ∧ ∀ line ∈ looked, line.topic = .catalog := by
  intro shown answer
  have result : (Query.displayValue value locale).answer (e.settle catalogs).value = shown :=
    displayValue_eq _ value locale
  rcases ask_gives catalogs _ (.displayValue value locale) e rfl with kept | looked
  · rw [result] at kept
    refine ⟨congrArg (fun logged => logged.value.1) kept, [], ?_, List.forall_mem_nil _⟩
    exact congrArg Logged.lines kept
  · rw [result] at looked
    refine ⟨congrArg (fun logged => logged.value.1) looked, (e.settle catalogs).lines, ?_,
      settle_logs_catalog_lines catalogs e⟩
    exact congrArg Logged.lines looked

end Element

/-- A value is shown under every format but the rejected ones, each with its cause, and no cause is named
but these three. What does not depend on a format is never rejected. In place of a rejected format the
default text is shown and one line logged, and otherwise nothing is logged. An element does the same with
its effective format. -/
theorem formats_are_rejected_for_their_letter (value : Value) (format : String) (locale : Locale) :
    (∀ cause, formatValue value format locale = .error cause ↔ Rejected format value cause) ∧
    (∀ cause, Rejected format value cause → cause = .precisionOutOfRange format ∨
      cause = .unsupportedSpecifier format ∨ cause = .integralOnly format) ∧
    (value.isFormattable = false → formatValue value format locale = .ok value.defaultText) ∧
    ((∃ text, formatValue value format locale = .ok text ∧
        formatValueOrDefault value format locale = ⟨text, []⟩) ∨
      ∃ cause, Rejected format value cause ∧ formatValueOrDefault value format locale =
        ⟨value.defaultText, [⟨.debug, .format, cause.message ++ ", using raw value"⟩]⟩) ∧
    ∀ catalogs e,
      let shown := formatValueOrDefault value (e.settle catalogs).value.effectiveFormat locale
      let answer := (Query.displayValue value locale).ask catalogs e
      answer.value.1 = shown.value ∧
        ∃ looked, answer.lines = looked ++ shown.lines ∧
          ∀ line ∈ looked, line.topic = .catalog := by
  refine ⟨formatValue_eq_error_iff value format locale, ?_, ?_,
    formatValueOrDefault_eq value format locale,
    fun catalogs e => e.ask_displayValue catalogs value locale⟩
  · intro cause rejected
    cases rejected with
    | number _ rejected => exact rejected.named
    | integer _ rejected => exact rejected.named
    | shorthand => exact Or.inr (Or.inl rfl)
  · intro unformatted
    cases value with
    | number | integer | dateTime => cases unformatted
    | empty | text | boolean => rfl

theorem formats_are_rejected_for_their_letter_quarter :
    Rejected "D2" (.number 4.25) (.integralOnly "D2") ∧
      formatValue (.number 4.25) "D2" .enUS = .error (.integralOnly "D2") ∧
      formatValueOrDefault (.number 4.25) "D2" .enUS =
        ⟨"4.25", [⟨.debug, .format,
          "Format 'D2' is only valid for integral values, using raw value"⟩]⟩ ∧
      formatValue (.text "n/a") "D2" .enUS = .ok "n/a" := by
  have rejected : Rejected "D2" (.number 4.25) (.integralOnly "D2") := by
    have meant : LetterFormat "D2" 'D' ['2'] := 
      ⟨by decide, by decide, List.forall_mem_singleton.mpr (by decide)⟩
    refine .number meant (.integral (by decide) (by decide) ?_)
    rw [← hasFraction_iff]
    decide +kernel
  obtain ⟨exactly, -, -, fallback, -⟩ :=
    formats_are_rejected_for_their_letter (.number 4.25) "D2" .enUS
  obtain ⟨-, -, unformatted, -⟩ := formats_are_rejected_for_their_letter (.text "n/a") "D2" .enUS
  have failed := (exactly _).mpr rejected
  refine ⟨rejected, failed, ?_, unformatted rfl⟩
  rcases fallback with ⟨text, shown, -⟩ | ⟨cause, other, logged⟩
  · rw [failed] at shown
    cases shown
  · obtain rfl := error_eq_iff.mp (failed.symm.trans ((exactly cause).mpr other))
    have number : Value.defaultText (.number 4.25) = "4.25" := by decide +kernel
    rw [logged, number]
    rfl

end ReportColumns
