import ReportColumns.NumberFormat.Render
import ReportColumns.Proofs.Decimal.Numeral
/-!
How a letter with digits after it is read. A precision is written as one digit or as two.
-/

namespace ReportColumns

open Decimal

structure LetterFormat (format : String) (letter : Char) (digits : List Char) : Prop where
  spelled : format.toList = letter :: digits
  letter : letter.isAlpha = true
  digits : ∀ c ∈ digits, c.isDigit = true

theorem LetterFormat.parse {format : String} {letter : Char} {digits : List Char}
    (meant : LetterFormat format letter digits) :
    NumberFormat.parse format =
      if 2 < digits.length then .error (.precisionOutOfRange format)
      else match Specifier.ofLetter? letter with
        | none => .error (.unsupportedSpecifier format)
        | some specifier =>
          .ok (.standard ⟨specifier, if digits.isEmpty then none else some (ofDigits digits),
            letter.isLower⟩) := by
  have read : (letter.isAlpha && digits.all Char.isDigit) = true :=
    Bool.and_eq_true_iff.mpr ⟨meant.letter, List.all_eq_true.mpr meant.digits⟩
  rw [NumberFormat.parse, meant.spelled]
  exact if_pos read

/-- The digits that write a precision after a letter. A small one may have a zero in front. -/
def precisionTexts (p : Nat) : List (List Char) := [digits p, paddedDigits 2 p]

theorem precisionText_cases {p : Nat} {text : List Char} (written : text ∈ precisionTexts p) :
    text = digits p ∨ text = paddedDigits 2 p := by
  simpa [precisionTexts] using written

theorem precisionText_value {p : Nat} {text : List Char} (written : text ∈ precisionTexts p) :
    ofDigits text = p := by
  rcases precisionText_cases written with rfl | rfl
  · exact ofDigits_digits p
  · exact ofDigits_paddedDigits 2 p

theorem precisionText_is_short {p : Nat} {text : List Char} (small : p ≤ 99)
    (written : text ∈ precisionTexts p) : 0 < text.length ∧ text.length ≤ 2 := by
  have short : (digits p).length ≤ 2 := length_digits_le (by decide) (Nat.lt_succ_of_le small)
  have given : 0 < (digits p).length := List.length_pos_iff.mpr (digits_not_empty p)
  rcases precisionText_cases written with rfl | rfl
  · exact ⟨given, short⟩
  · rw [paddedDigits, List.length_leftpad]
    omega

theorem precisionText_is_digits {p : Nat} {text : List Char} (written : text ∈ precisionTexts p) :
    text.all Char.isDigit = true := by
  rw [List.all_eq_true]
  intro c found
  rcases precisionText_cases written with rfl | rfl
  · exact digits_are_digits found
  · exact paddedDigits_are_digits found

theorem parse_letter {letter : Char} {specifier : Specifier} {p : Nat} {text : List Char}
    (alphabetic : letter.isAlpha = true) (known : Specifier.ofLetter? letter = some specifier)
    (small : p ≤ 99) (written : text ∈ precisionTexts p) :
    NumberFormat.parse (String.ofList (letter :: text)) =
      .ok (.standard ⟨specifier, some p, letter.isLower⟩) := by
  have meant : LetterFormat (String.ofList (letter :: text)) letter text :=
    ⟨String.toList_ofList, alphabetic, List.all_eq_true.mp (precisionText_is_digits written)⟩
  obtain ⟨given, short⟩ := precisionText_is_short small written
  have some : text.isEmpty = false := by simpa using List.length_pos_iff.mp given
  rw [meant.parse, if_neg (Nat.not_lt.mpr short), known]
  simp only [some, Bool.false_eq_true, if_false, precisionText_value written]

theorem formatAmount_letter {letter : Char} {specifier : Specifier} {p : Nat} {text : List Char}
    (alphabetic : letter.isAlpha = true) (known : Specifier.ofLetter? letter = some specifier)
    (small : p ≤ 99) (written : text ∈ precisionTexts p) (amount : Amount) (locale : Locale) :
    formatAmount amount (String.ofList (letter :: text)) locale =
      if specifier = .decimal ∧ amount.hasFraction then
        .error (.integralOnly (String.ofList (letter :: text)))
      else
        .ok (String.ofList (writeGlyphs locale
          (StandardFormat.glyphs ⟨specifier, some p, letter.isLower⟩ locale.currency amount))) := by
  rw [formatAmount, amountGlyphs, parse_letter alphabetic known small written]
  cases specifier with
  | decimal => cases amount.hasFraction <;> rfl
  | _ => rfl

theorem formatAmount_letter_ok {letter : Char} {specifier : Specifier} {p : Nat}
    {text : List Char} (alphabetic : letter.isAlpha = true)
    (known : Specifier.ofLetter? letter = some specifier) (small : p ≤ 99)
    (written : text ∈ precisionTexts p) (amount : Amount) (locale : Locale)
    (total : specifier ≠ .decimal) :
    ∃ shown, formatAmount amount (String.ofList (letter :: text)) locale = .ok shown := by
  rw [formatAmount_letter alphabetic known small written, if_neg fun rejected => total rejected.1]
  exact ⟨_, rfl⟩

end ReportColumns
