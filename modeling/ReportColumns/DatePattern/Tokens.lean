import ReportColumns.DatePattern.Scan
/-!
The two token tables of native date patterns: what a token shows when a date is displayed, and which
time directive stands for it in a chart format. Families of one letter are listed longest token first.
Charts have no directive for the half of the day, so `tt` is a token of the display table only.
-/

namespace ReportColumns

inductive DatePart where
  | dayNameFull
  | dayNameShort
  | day2
  | day1
  | monthNameFull
  | monthNameShort
  | month2
  | month1
  | year4
  | year2
  | year1
  | hour24Padded
  | hour24
  | hour12Padded
  | hour12
  | minute2
  | minute1
  | second2
  | second1
  | millisecond
  | designator
  deriving DecidableEq, Repr

private def rule (native : String) (output : α) : TokenRule α := ⟨native.toList, output⟩

def displayTokens : TokenTable DatePart :=
  [rule "dddd" .dayNameFull, rule "ddd" .dayNameShort, rule "dd" .day2, rule "d" .day1,
    rule "MMMM" .monthNameFull, rule "MMM" .monthNameShort, rule "MM" .month2, rule "M" .month1,
    rule "yyyy" .year4, rule "yyy" .year4, rule "yy" .year2, rule "y" .year1,
    rule "HH" .hour24Padded, rule "H" .hour24,
    rule "hh" .hour12Padded, rule "h" .hour12,
    rule "mm" .minute2, rule "m" .minute1,
    rule "ss" .second2, rule "s" .second1,
    rule "FFF" .millisecond,
    rule "tt" .designator]

def chartTokens : TokenTable String :=
  [rule "dddd" "%A", rule "ddd" "%a", rule "dd" "%d", rule "d" "%e",
    rule "MMMM" "%B", rule "MMM" "%b", rule "MM" "%m", rule "M" "%m",
    rule "yyyy" "%Y", rule "yyy" "%Y", rule "yy" "%y", rule "y" "%y",
    rule "HH" "%H", rule "H" "%H",
    rule "hh" "%I", rule "h" "%I",
    rule "mm" "%M", rule "m" "%M",
    rule "ss" "%S", rule "s" "%S",
    rule "FFF" "%L"]

def directiveChars : Segment String → List Char
  | .token directive => directive.toList
  | .literal c => [c]

def chartDirectives (pattern : List Char) : List Char :=
  (scan chartTokens pattern).flatMap directiveChars

def replaceSlashes (separator : List Char) (text : List Char) : List Char :=
  text.flatMap fun c => if c = '/' then separator else [c]

end ReportColumns
