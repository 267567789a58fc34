import ReportColumns.FormatError
import ReportColumns.NumberFormat.Pattern
import ReportColumns.NumberFormat.Specifier
/-!
Native numeric formats: a standard format or a custom pattern, and the text they give an amount.
-/

namespace ReportColumns

inductive NumberFormat where
  | standard (format : StandardFormat)
  | custom (pattern : Pattern)
  deriving DecidableEq, Repr

namespace NumberFormat

/-- A letter alone or with digits is always meant as a standard format. The empty format is the
general one, and everything else is a custom pattern. -/
def parse (format : String) : Except FormatError NumberFormat :=
  match format.toList with
  | [] => .ok (.standard ⟨.general, none, false⟩)
  | letter :: rest =>
    if letter.isAlpha && rest.all Char.isDigit then
      if 2 < rest.length then .error (.precisionOutOfRange format)
      else
        match Specifier.ofLetter? letter with
        | none => .error (.unsupportedSpecifier format)
        | some specifier =>
          let precision := if rest.isEmpty then none else some (Decimal.ofDigits rest)
          .ok (.standard ⟨specifier, precision, letter.isLower⟩)
    else .ok (.custom (Pattern.parse (letter :: rest)))

def glyphs (format : NumberFormat) (currency : Currency) (amount : Amount) : List Glyph :=
  match format with
  | .standard letterFormat => letterFormat.glyphs currency amount
  | .custom pattern => pattern.glyphs amount

def isIntegral : NumberFormat → Bool
  | .standard ⟨.decimal, _, _⟩ => true
  | _ => false

theorem isIntegral_standard (format : StandardFormat) :
    (standard format).isIntegral = decide (format.specifier = .decimal) := by
  obtain ⟨specifier, precision, lowercase⟩ := format
  cases specifier with
  | decimal => rfl
  | _ => rfl

end NumberFormat

def amountGlyphs (format : String) (currency : Currency) (amount : Amount) :
    Except FormatError (List Glyph) := do
  let parsed ← NumberFormat.parse format
  if parsed.isIntegral && amount.hasFraction then throw (.integralOnly format)
  return parsed.glyphs currency amount

theorem amountGlyphs_of_parse {format : String} {parsed : NumberFormat}
    (read : NumberFormat.parse format = .ok parsed) (currency : Currency) (amount : Amount) :
    amountGlyphs format currency amount =
      if parsed.isIntegral && amount.hasFraction then .error (.integralOnly format)
      else .ok (parsed.glyphs currency amount) := by
  rw [amountGlyphs, read]
  rfl

def formatAmount (amount : Amount) (format : String) (locale : Locale) :
    Except FormatError String :=
  (amountGlyphs format locale.currency amount).map fun glyphs =>
    String.ofList (writeGlyphs locale glyphs)

def Pattern.format (pattern : Pattern) (amount : Amount) (locale : Locale) : String :=
  String.ofList (writeGlyphs locale (pattern.glyphs amount))

end ReportColumns
