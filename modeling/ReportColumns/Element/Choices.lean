import ReportColumns.Vocabulary
/-!
The closed choices that configure a report element: where it is placed, how it is aggregated, how it
takes part in charts, and the format presets. A new element starts with the default of every type.
-/

namespace ReportColumns

inductive Placement where
  | page
  | row
  | column
  | data
  deriving DecidableEq, Repr

instance : Inhabited Placement := ⟨.row⟩

instance : Vocabulary Placement where
  all := [.page, .row, .column, .data]
  word
    | .page => "Page"
    | .row => "Row"
    | .column => "Column"
    | .data => "Data"

/-- The declared type of a column. On an element the default means the type in the catalog. -/
inductive ColumnType where
  | default
  | numeric
  | text
  | dateTime
  deriving DecidableEq, Repr, Inhabited

instance : Vocabulary ColumnType where
  all := [.default, .numeric, .text, .dateTime]
  word
    | .default => "Default"
    | .numeric => "Numeric"
    | .text => "Text"
    | .dateTime => "DateTime"

inductive Aggregate where
  | sum
  | count
  | countDistinct
  | min
  | max
  | average
  deriving DecidableEq, Repr, Inhabited

instance : Vocabulary Aggregate where
  all := [.sum, .count, .countDistinct, .min, .max, .average]
  word
    | .sum => "Sum"
    | .count => "Count"
    | .countDistinct => "CountDistinct"
    | .min => "Min"
    | .max => "Max"
    | .average => "Average"

def Aggregate.label : Aggregate → String
  | .sum => "Sum"
  | .count => "Count"
  | .countDistinct => "Count Distinct"
  | .min => "Min"
  | .max => "Max"
  | .average => "Average"

def Aggregate.sql (expression : String) : Aggregate → String
  | .sum => s!"SUM({expression})"
  | .count => s!"COUNT({expression})"
  | .countDistinct => s!"COUNT(DISTINCT {expression})"
  | .min => s!"MIN({expression})"
  | .max => s!"MAX({expression})"
  | .average => s!"AVG({expression})"

inductive Calculation where
  | no
  | percentageOfColumn
  | percentageOfRow
  | percentageOfAll
  deriving DecidableEq, Repr, Inhabited

instance : Vocabulary Calculation where
  all := [.no, .percentageOfColumn, .percentageOfRow, .percentageOfAll]
  word
    | .no => "No"
    | .percentageOfColumn => "PercentageOfColumn"
    | .percentageOfRow => "PercentageOfRow"
    | .percentageOfAll => "PercentageOfAll"

inductive ShowTotal where
  | no
  | row
  | column
  | rowColumn
  deriving DecidableEq, Repr, Inhabited

instance : Vocabulary ShowTotal where
  all := [.no, .row, .column, .rowColumn]
  word
    | .no => "No"
    | .row => "Row"
    | .column => "Column"
    | .rowColumn => "RowColumn"

inductive SerieRole where
  | none
  | axis
  | splitter
  | splitterBoth
  | serie
  | clientSerie
  | alternateSerie
  deriving DecidableEq, Repr, Inhabited

instance : Vocabulary SerieRole where
  all := [.none, .axis, .splitter, .splitterBoth, .serie, .clientSerie, .alternateSerie]
  word
    | .none => "None"
    | .axis => "Axis"
    | .splitter => "Splitter"
    | .splitterBoth => "SplitterBoth"
    | .serie => "Serie"
    | .clientSerie => "NVD3Serie"
    | .alternateSerie => "AlternateSerie"

def SerieRole.isSerie : SerieRole → Bool
  | .serie | .clientSerie => true
  | _ => false

inductive ServerChart where
  | point
  | line
  | spline
  | column
  | stackedColumn
  | bar
  | stackedBar
  | area
  | stackedArea
  | pie
  | doughnut
  deriving DecidableEq, Repr, Inhabited

instance : Vocabulary ServerChart where
  all := [.point, .line, .spline, .column, .stackedColumn, .bar, .stackedBar, .area, .stackedArea,
    .pie, .doughnut]
  word
    | .point => "Point"
    | .line => "Line"
    | .spline => "Spline"
    | .column => "Column"
    | .stackedColumn => "StackedColumn"
    | .bar => "Bar"
    | .stackedBar => "StackedBar"
    | .area => "Area"
    | .stackedArea => "StackedArea"
    | .pie => "Pie"
    | .doughnut => "Doughnut"

inductive ClientChart where
  | scatter
  | line
  | linePlusBar
  | multiBar
  | multiBarHorizontal
  | discreteBar
  | stackedArea
  | pie
  deriving DecidableEq, Repr, Inhabited

instance : Vocabulary ClientChart where
  all := [.scatter, .line, .linePlusBar, .multiBar, .multiBarHorizontal, .discreteBar, .stackedArea,
    .pie]
  word
    | .scatter => "ScatterChart"
    | .line => "LineChart"
    | .linePlusBar => "LinePlusBarChart"
    | .multiBar => "MultiBarChart"
    | .multiBarHorizontal => "MultiBarHorizontalChart"
    | .discreteBar => "DiscreteBarChart"
    | .stackedArea => "StackedAreaChart"
    | .pie => "PieChart"

inductive AxisType where
  | primary
  | secondary
  deriving DecidableEq, Repr, Inhabited

instance : Vocabulary AxisType where
  all := [.primary, .secondary]
  word
    | .primary => "Primary"
    | .secondary => "Secondary"

inductive PointOrder where
  | ascending
  | descending
  deriving DecidableEq, Repr, Inhabited

instance : Vocabulary PointOrder where
  all := [.ascending, .descending]
  word
    | .ascending => "Ascending"
    | .descending => "Descending"

inductive PointSortKey where
  | none
  | x
  | y
  deriving DecidableEq, Repr

instance : Inhabited PointSortKey := ⟨.y⟩

instance : Vocabulary PointSortKey where
  all := [.none, .x, .y]
  word
    | .none => "None"
    | .x => "X"
    | .y => "Y"

inductive NumericPreset where
  | default
  | custom
  | numeric0
  | numeric1
  | numeric2
  | numeric3
  | numeric4
  | percentage0
  | percentage1
  | percentage2
  | percentage3
  | percentage4
  | currency0
  | currency1
  | currency2
  | currency3
  | currency4
  deriving DecidableEq, Repr, Inhabited

instance : Vocabulary NumericPreset where
  all := [.default, .custom, .numeric0, .numeric1, .numeric2, .numeric3, .numeric4, .percentage0,
    .percentage1, .percentage2, .percentage3, .percentage4, .currency0, .currency1, .currency2,
    .currency3, .currency4]
  word
    | .default => "Default"
    | .custom => "Custom"
    | .numeric0 => "Numeric0"
    | .numeric1 => "Numeric1"
    | .numeric2 => "Numeric2"
    | .numeric3 => "Numeric3"
    | .numeric4 => "Numeric4"
    | .percentage0 => "Percentage0"
    | .percentage1 => "Percentage1"
    | .percentage2 => "Percentage2"
    | .percentage3 => "Percentage3"
    | .percentage4 => "Percentage4"
    | .currency0 => "Currency0"
    | .currency1 => "Currency1"
    | .currency2 => "Currency2"
    | .currency3 => "Currency3"
    | .currency4 => "Currency4"

def NumericPreset.token? : NumericPreset → Option String
  | .default => none
  | .custom => none
  | .numeric0 => some "N0"
  | .numeric1 => some "N1"
  | .numeric2 => some "N2"
  | .numeric3 => some "N3"
  | .numeric4 => some "N4"
  | .percentage0 => some "P0"
  | .percentage1 => some "P1"
  | .percentage2 => some "P2"
  | .percentage3 => some "P3"
  | .percentage4 => some "P4"
  | .currency0 => some "C0"
  | .currency1 => some "C1"
  | .currency2 => some "C2"
  | .currency3 => some "C3"
  | .currency4 => some "C4"

def NumericPreset.isPercentage : NumericPreset → Bool
  | .percentage0 | .percentage1 | .percentage2 | .percentage3 | .percentage4 => true
  | _ => false

inductive DatePreset where
  | default
  | custom
  | shortDate
  | longDate
  | shortTime
  | longTime
  | shortDateShortTime
  | shortDateLongTime
  | longDateShortTime
  | longDateLongTime
  deriving DecidableEq, Repr, Inhabited

instance : Vocabulary DatePreset where
  all := [.default, .custom, .shortDate, .longDate, .shortTime, .longTime, .shortDateShortTime,
    .shortDateLongTime, .longDateShortTime, .longDateLongTime]
  word
    | .default => "Default"
    | .custom => "Custom"
    | .shortDate => "ShortDate"
    | .longDate => "LongDate"
    | .shortTime => "ShortTime"
    | .longTime => "LongTime"
    | .shortDateShortTime => "ShortDateShortTime"
    | .shortDateLongTime => "ShortDateLongTime"
    | .longDateShortTime => "LongDateShortTime"
    | .longDateLongTime => "LongDateLongTime"

def DatePreset.token? : DatePreset → Option String
  | .default => none
  | .custom => none
  | .shortDate => some "d"
  | .longDate => some "D"
  | .shortTime => some "t"
  | .longTime => some "T"
  | .shortDateShortTime => some "g"
  | .shortDateLongTime => some "G"
  | .longDateShortTime => some "f"
  | .longDateLongTime => some "F"

end ReportColumns
