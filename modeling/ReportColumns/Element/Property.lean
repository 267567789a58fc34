import ReportColumns.Text.Letters
import ReportColumns.Vocabulary
/-!
The properties of a report element that an editor can show. Each has the name that the editor uses and
a word under which it is saved; three of them differ.
-/

namespace ReportColumns

inductive ElementProperty where
  | displayName
  | sql
  | cellCss
  | hasHtmlTags
  | sortOrder
  | format
  | columnType
  | aggregate
  | totalAggregate
  | showTotal
  | cellScript
  | calculation
  | numericPreset
  | datePreset
  | serieRole
  | serverChart
  | clientChart
  | xAxis
  | yAxis
  | pointOrder
  | pointSortKey
  | axisUseValues
  | drillEnabled
  | subReportsEnabled
  deriving DecidableEq, Repr

namespace ElementProperty

instance : Vocabulary ElementProperty where
  all := [.displayName, .sql, .cellCss, .hasHtmlTags, .sortOrder, .format, .columnType, .aggregate,
    .totalAggregate, .showTotal, .cellScript, .calculation, .numericPreset, .datePreset, .serieRole,
    .serverChart, .clientChart, .xAxis, .yAxis, .pointOrder, .pointSortKey, .axisUseValues,
    .drillEnabled, .subReportsEnabled]
  word
    | .displayName => "DisplayName"
    | .sql => "Sql"
    | .cellCss => "CellCss"
    | .hasHtmlTags => "HasHtmlTags"
    | .sortOrder => "SortOrder"
    | .format => "Format"
    | .columnType => "ColumnType"
    | .aggregate => "AggregateFunction"
    | .totalAggregate => "TotalAggregateFunction"
    | .showTotal => "ShowTotal"
    | .cellScript => "CellScript"
    | .calculation => "CalculationOption"
    | .numericPreset => "NumericStandardFormat"
    | .datePreset => "DateTimeStandardFormat"
    | .serieRole => "SerieDefinition"
    | .serverChart => "SerieType"
    | .clientChart => "Nvd3Serie"
    | .xAxis => "XAxisType"
    | .yAxis => "YAxisType"
    | .pointOrder => "SerieSortOrder"
    | .pointSortKey => "SerieSortType"
    | .axisUseValues => "AxisUseValues"
    | .drillEnabled => "DrillEnabled"
    | .subReportsEnabled => "SubReportsEnabled"

def name : ElementProperty → String
  | .sql => "SQL"
  | .hasHtmlTags => "HasHTMLTags"
  | .columnType => "Type"
  | property => Vocabulary.word property

def all : List ElementProperty := Vocabulary.all

end ElementProperty

inductive PropertyError where
  | unknown (name : String)
  | readOnly (property : ElementProperty)
  deriving DecidableEq, Repr

def PropertyError.message : PropertyError → String
  | .unknown name => s!"Unknown property: {name}"
  | .readOnly property =>
    let word := Vocabulary.word property
    s!"Property is read-only: {word}"

def ElementProperty.parse (name : String) : Except PropertyError ElementProperty :=
  match all.find? fun property => Text.sameIgnoringCase property.name.toList name.toList with
  | some property => .ok property
  | none => .error (.unknown name)

end ReportColumns
