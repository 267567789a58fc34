import ReportColumns.Locale.Basic
/-!
Shorthand date formats: eight single letters that stand for patterns of the locale. Small letters show
the short form, capitals the long one; `g`, `G`, `f` and `F` join a date and a time with a space.
-/

namespace ReportColumns

inductive Shorthand where
  | shortDate
  | longDate
  | shortTime
  | longTime
  | shortDateShortTime
  | shortDateLongTime
  | longDateShortTime
  | longDateLongTime
  deriving DecidableEq, Repr

namespace Shorthand

def letter : Shorthand → Char
  | .shortDate => 'd'
  | .longDate => 'D'
  | .shortTime => 't'
  | .longTime => 'T'
  | .shortDateShortTime => 'g'
  | .shortDateLongTime => 'G'
  | .longDateShortTime => 'f'
  | .longDateLongTime => 'F'

def all : List Shorthand :=
  [.shortDate, .longDate, .shortTime, .longTime, .shortDateShortTime, .shortDateLongTime,
    .longDateShortTime, .longDateLongTime]

def ofLetter? (c : Char) : Option Shorthand := all.find? (·.letter == c)

def pattern (locale : Locale) : Shorthand → List Char
  | .shortDate => locale.shortDatePattern.toList
  | .longDate => locale.longDatePattern.toList
  | .shortTime => locale.shortTimePattern.toList
  | .longTime => locale.longTimePattern.toList
  | .shortDateShortTime =>
    locale.shortDatePattern.toList ++ ' ' :: locale.shortTimePattern.toList
  | .shortDateLongTime => locale.shortDatePattern.toList ++ ' ' :: locale.longTimePattern.toList
  | .longDateShortTime => locale.longDatePattern.toList ++ ' ' :: locale.shortTimePattern.toList
  | .longDateLongTime => locale.longDatePattern.toList ++ ' ' :: locale.longTimePattern.toList

end Shorthand

/-- The pattern of a format: the locale's for a shorthand letter, the format itself otherwise. -/
def expandShorthand (locale : Locale) (format : List Char) : List Char :=
  match format with
  | [letter] =>
    match Shorthand.ofLetter? letter with
    | some shorthand => shorthand.pattern locale
    | none => format
  | _ => format

end ReportColumns
