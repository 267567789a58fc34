/-!
Locale data: the patterns, separators and words that formatting takes from a culture. A locale is
plain data. Its date and time patterns are written in the native date grammar, where a slash stands
for the date separator.
-/

namespace ReportColumns

inductive CurrencyPosition where
  | before
  | after
  deriving DecidableEq, Repr, Inhabited

structure Locale where
  /-- A language, or a language and a region joined by a hyphen. Empty for the invariant locale. -/
  name : String
  shortDatePattern : String
  longDatePattern : String
  shortTimePattern : String
  longTimePattern : String
  dateSeparator : String
  decimalSeparator : String
  groupSeparator : String
  currencySymbol : String
  currencyPosition : CurrencyPosition
  amDesignator : String
  pmDesignator : String
  deriving DecidableEq, Repr

structure Currency where
  symbol : String
  position : CurrencyPosition
  deriving DecidableEq, Repr

def Locale.currency (locale : Locale) : Currency := ⟨locale.currencySymbol, locale.currencyPosition⟩

end ReportColumns
