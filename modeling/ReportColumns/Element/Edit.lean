import ReportColumns.Element.Query
/-!
Edits of an element. Every change that can be made to an element is an edit, and one function applies
them all. An edit sees the catalogs as they are at that moment, but it looks at them only when the cell
of the element is empty.
-/

namespace ReportColumns

inductive Edit where
  | changeColumn (columnId : String)
  | setSource (source : CatalogSource)
  | invalidate
  | refreshPolicy
  | setDefaults
  | displayName (name : String)
  | columnType (type : ColumnType)
  | format (format : String)
  | numericPreset (preset : NumericPreset)
  | datePreset (preset : DatePreset)
  | sortOrder (order : SortOrder)
  | hasHtmlTags (value : Option Bool)
  | placement (placement : Placement)
  | aggregate (aggregate : Aggregate)
  | calculation (calculation : Calculation)
  | showTotal (showTotal : ShowTotal)
  | totalAggregate (aggregate : Aggregate)
  | serieRole (role : SerieRole)
  | serverChart (chart : ServerChart)
  | clientChart (chart : ClientChart)
  | xAxis (axis : AxisType)
  | yAxis (axis : AxisType)
  | pointOrder (order : PointOrder)
  | pointSortKey (key : PointSortKey)
  | axisUseValues (value : Bool)
  | sql (sql : String)
  | cellCss (spec : String)
  | cellScript (script : String)
  | drillEnabled (value : Bool)
  | subReportsEnabled (value : Bool)
  deriving DecidableEq, Repr

/-- The property that an edit changes. Edits of the reference and of the policy change none. -/
def Edit.property? : Edit → Option ElementProperty
  | .changeColumn _ | .setSource _ | .invalidate | .refreshPolicy => none
  | .setDefaults | .aggregate _ => some .aggregate
  | .displayName _ => some .displayName
  | .columnType _ => some .columnType
  | .format _ => some .format
  | .numericPreset _ => some .numericPreset
  | .datePreset _ => some .datePreset
  | .sortOrder _ => some .sortOrder
  | .hasHtmlTags _ => some .hasHtmlTags
  | .placement _ => none
  | .calculation _ => some .calculation
  | .showTotal _ => some .showTotal
  | .totalAggregate _ => some .totalAggregate
  | .serieRole _ => some .serieRole
  | .serverChart _ => some .serverChart
  | .clientChart _ => some .clientChart
  | .xAxis _ => some .xAxis
  | .yAxis _ => some .yAxis
  | .pointOrder _ => some .pointOrder
  | .pointSortKey _ => some .pointSortKey
  | .axisUseValues _ => some .axisUseValues
  | .sql _ => some .sql
  | .cellCss _ => some .cellCss
  | .cellScript _ => some .cellScript
  | .drillEnabled _ => some .drillEnabled
  | .subReportsEnabled _ => some .subReportsEnabled

def Edit.resolves : Edit → Bool
  | .changeColumn _ | .setSource _ | .invalidate => true
  | _ => false

namespace Element.Access

def isDerivedName (name : String) : Access Bool := do
  if (← column).isSome then return name == (← derivedNameIn .identity) else return false

/-- Overrides the display name. A name equal to the derived one is no override. -/
def setDisplayName (name : String) : Access Unit := do
  let derived ← isDerivedName name
  change fun e => { e with nameOverride := if derived then "" else name }

def leaveNumericDefault : Access Unit := do
  let followsCatalog ← read (·.numericPreset == .default)
  if (← isNumeric) && followsCatalog then change fun e => { e with numericPreset := .custom }
  else return

def leaveDateDefault : Access Unit := do
  let followsCatalog ← read (·.datePreset == .default)
  if (← isDateTime) && followsCatalog then change fun e => { e with datePreset := .custom }
  else return

/-- Sets the free-text format. When it is not empty, the selector of the values' kind stands for the
catalog's format no longer. -/
def setFormat (format : String) : Access Unit := do
  change fun e => { e with format }
  if format.isEmpty then refreshPolicy
  else do
    leaveNumericDefault
    leaveDateDefault
    refreshPolicy

def setNumericPreset (preset : NumericPreset) : Access Unit := do
  change fun e => { e with numericPreset := preset, format := preset.token?.getD e.format }
  refreshPolicy

def setDatePreset (preset : DatePreset) : Access Unit := do
  change fun e => { e with datePreset := preset, format := preset.token?.getD e.format }
  refreshPolicy

def setAggregate (aggregate : Aggregate) : Access Unit := do
  change fun e => { e with aggregate }
  refreshPolicy

def setDefaults : Access Unit := do
  setAggregate (← defaultAggregate)

/-- Sets the calculation. A percentage selects a percentage format when there is no format yet. Going
back to none clears the format unless the numeric selector is set to custom. -/
def setCalculation (calculation : Calculation) : Access Unit := do
  change fun e => { e with calculation }
  let id ← read Element.id
  let unformatted ← read (·.format.isEmpty)
  let custom ← read (·.numericPreset == .custom)
  if calculation != .no && unformatted then do
    let word := Vocabulary.word calculation
    report (.log .debug .element s!"element {id}: {word} selects percentage format")
    setNumericPreset .percentage0
    refreshPolicy
  else if calculation == .no && !custom then do
    report (.log .debug .element s!"element {id}: calculation reset clears format")
    change fun e => { e with format := "", numericPreset := .custom }
    refreshPolicy
  else refreshPolicy

/-- What an edit does. The policy is derived again after every edit of a setting it depends on. -/
def perform : Edit → Access Unit
  | .changeColumn columnId => do change ({ · with columnId }); invalidate
  | .setSource source => do change ({ · with source := some source }); invalidate
  | .invalidate => invalidate
  | .refreshPolicy => refreshPolicy
  | .setDefaults => setDefaults
  | .displayName name => setDisplayName name
  | .columnType columnType => do change ({ · with columnType }); refreshPolicy
  | .format format => setFormat format
  | .numericPreset preset => setNumericPreset preset
  | .datePreset preset => setDatePreset preset
  | .sortOrder sortOrder => change ({ · with sortOrder })
  | .hasHtmlTags htmlTagsOverride => change ({ · with htmlTagsOverride })
  | .placement placement => do change ({ · with placement }); refreshPolicy
  | .aggregate aggregate => setAggregate aggregate
  | .calculation calculation => setCalculation calculation
  | .showTotal showTotal => do change ({ · with showTotal }); refreshPolicy
  | .totalAggregate totalAggregate => change ({ · with totalAggregate })
  | .serieRole serieRole => do change ({ · with serieRole }); refreshPolicy
  | .serverChart serverChart => change ({ · with serverChart })
  | .clientChart clientChart => change ({ · with clientChart })
  | .xAxis xAxis => change ({ · with xAxis })
  | .yAxis yAxis => change ({ · with yAxis })
  | .pointOrder pointOrder => change ({ · with pointOrder })
  | .pointSortKey pointSortKey => do change ({ · with pointSortKey }); refreshPolicy
  | .axisUseValues axisUseValues => change ({ · with axisUseValues })
  | .sql sqlOverride => change ({ · with sqlOverride })
  | .cellCss cellCss => change ({ · with cellCss })
  | .cellScript cellScript => change ({ · with cellScript })
  | .drillEnabled drillEnabled => change ({ · with drillEnabled })
  | .subReportsEnabled subReportsEnabled => change ({ · with subReportsEnabled })

end Element.Access

namespace Element

def apply (catalogs : CatalogStore) (e : Element) (edit : Edit) : Logged Element :=
  e.after catalogs (Access.perform edit)

def applyAll (catalogs : CatalogStore) (e : Element) (edits : List Edit) : Logged Element :=
  edits.foldlM (apply catalogs) e

end Element

end ReportColumns
