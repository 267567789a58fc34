import ReportColumns.CellStyle
import ReportColumns.Dialect
import ReportColumns.Element.Policy
import ReportColumns.Element.SortOrder
import ReportColumns.Catalog
import ReportColumns.Log
/-!
Report elements: catalog columns placed on a report, and what follows from their settings.

An element overrides some settings of its column and takes the others from the catalog entry. The entry
is kept in a cell. An empty cell is filled when the entry is first needed, and a reference that leads
nowhere fills it with no entry. All that is said here about an element reads the entry in its cell;
how the cell is filled on the way is the matter of `Element.Access`.
-/

namespace ReportColumns

structure Element where
  id : String
  columnId : String
  source : Option CatalogSource
  /-- The catalog entry once it has been looked up. A lookup that failed is kept as no entry. -/
  cell : Option (Option CatalogEntry)
  placement : Placement
  /-- The display name that overrides the derived one, or empty. -/
  nameOverride : String
  columnType : ColumnType
  /-- The free-text format. Presets write their native format here too. -/
  format : String
  numericPreset : NumericPreset
  datePreset : DatePreset
  sortOrder : SortOrder
  htmlTagsOverride : Option Bool
  aggregate : Aggregate
  calculation : Calculation
  showTotal : ShowTotal
  totalAggregate : Aggregate
  serieRole : SerieRole
  serverChart : ServerChart
  clientChart : ClientChart
  xAxis : AxisType
  yAxis : AxisType
  pointOrder : PointOrder
  pointSortKey : PointSortKey
  axisUseValues : Bool
  /-- The query expression that overrides the derived one, or empty. -/
  sqlOverride : String
  cellCss : String
  cellScript : String
  drillEnabled : Bool
  subReportsEnabled : Bool
  policy : EditorPolicy
  deriving DecidableEq, Repr

/-- The sort key of an enumerated value. Sorted elements over an enumeration that is ordered by
position put the last position of the value first, in six digits. A key that names no value is its own
sort key. -/
def EnumDefinition.sortKey (enumeration : EnumDefinition) (sorted : Bool)
    (kind : EnumDefinition.KeyKind) (key : String) : String :=
  match enumeration.find? kind key with
  | none => key
  | some value =>
    let position :=
      if sorted && enumeration.usePosition then enumeration.lastPosition? value else none
    match position with
    | some index => String.ofList (padded 6 index ++ value.displayValue.toList)
    | none => value.displayValue

namespace Element

def entry (e : Element) : Option CatalogEntry := e.cell.join

def enumeration? (e : Element) : Option EnumDefinition := e.entry.bind (·.enumeration)

/-- A Data element that counts rows shows numbers, whatever its column holds. -/
def countsRows (e : Element) : Bool := e.placement == .data && e.aggregate == .count

/-- The overriding type, else the type in the catalog. A type that nothing declares is text. -/
def resolvedType (e : Element) : ColumnType :=
  if e.columnType != .default then e.columnType
  else
    match e.entry.map CatalogEntry.columnType with
    | none => .text
    | some .default => .text
    | some declared => declared

def isEnum (e : Element) : Bool := !e.countsRows && e.enumeration?.isSome

def isNumeric (e : Element) : Bool := e.countsRows || e.resolvedType == .numeric

def isDateTime (e : Element) : Bool := !e.countsRows && e.resolvedType == .dateTime

def isText (e : Element) : Bool := !e.countsRows && e.resolvedType == .text

def formatClassification (e : Element) : Classification :=
  if e.isNumeric then .numeric else if e.isDateTime then .dateTime else .text

def classification (e : Element) : Classification :=
  if e.countsRows then .numeric
  else if e.enumeration?.isSome then .enumerated
  else e.formatClassification

/-- The aggregate that suits the values: numbers are summed, the latest date is taken, and all else is
counted. It depends on the column alone. -/
def defaultAggregate (e : Element) : Aggregate :=
  if e.enumeration?.isSome then .count
  else
    match e.resolvedType with
    | .numeric => .sum
    | .dateTime => .max
    | .default | .text => .count

def policyInputs (e : Element) : PolicyInputs where
  placement := e.placement
  serieRole := e.serieRole
  pointSortKey := e.pointSortKey
  showTotal := e.showTotal
  numericPreset := e.numericPreset
  datePreset := e.datePreset
  isEnum := e.isEnum
  isNumeric := e.isNumeric
  isDateTime := e.isDateTime
  columnIsAggregate := e.entry.any (·.isAggregate)
  sourceIsNoSql := e.source.any (·.noSql)

def refreshed (e : Element) : Element := { e with policy := .derive e.policyInputs }

def tryColumn (catalogs : CatalogStore) (e : Element) : Except CatalogError CatalogEntry :=
  if e.columnId.isEmpty then .error .noColumnReference
  else
    match e.source with
    | none => .error .noSource
    | some source => catalogs.lookup source e.columnId

def missingColumnLine (e : Element) (cause : CatalogError) : LogLine :=
  ⟨.warn, .catalog, s!"element {e.id}: {cause.message}"⟩

/-- Looks the reference up. One that leads nowhere is logged; an element that refers to no column is
not. -/
def lookUp (catalogs : CatalogStore) (e : Element) : Logged (Option CatalogEntry) :=
  match e.tryColumn catalogs with
  | .ok entry => pure (some entry)
  | .error .noColumnReference => pure none
  | .error cause => ⟨none, [e.missingColumnLine cause]⟩

def settle (catalogs : CatalogStore) (e : Element) : Logged Element :=
  match e.cell with
  | some _ => pure e
  | none => do
    let found ← e.lookUp catalogs
    return { e with cell := some found }

def bare : Element where
  id := ""
  columnId := ""
  source := none
  cell := none
  placement := .row
  nameOverride := ""
  columnType := .default
  format := ""
  numericPreset := .default
  datePreset := .default
  sortOrder := .automaticAscending
  htmlTagsOverride := none
  aggregate := .sum
  calculation := .no
  showTotal := .no
  totalAggregate := .sum
  serieRole := .none
  serverChart := .point
  clientChart := .scatter
  xAxis := .primary
  yAxis := .primary
  pointOrder := .ascending
  pointSortKey := .y
  axisUseValues := true
  sqlOverride := ""
  cellCss := ""
  cellScript := ""
  drillEnabled := true
  subReportsEnabled := true
  policy := .empty

def derivedSql (e : Element) : String :=
  match e.entry with
  | none => ""
  | some entry =>
    if e.placement == .data && !entry.isAggregate then e.aggregate.sql entry.name else entry.name

def sqlColumn (e : Element) : String :=
  if e.sqlOverride.isEmpty then e.derivedSql else e.sqlOverride

def isSorted (e : Element) : Bool := e.sortOrder.isSorted

def sortKey (e : Element) (kind : EnumDefinition.KeyKind) (key : String) : String :=
  match e.enumeration? with
  | none => key
  | some enumeration => enumeration.sortKey e.isSorted kind key

def hasHtmlTags (e : Element) : Bool :=
  (e.htmlTagsOverride.or (e.entry.bind (·.hasHtmlTags))).getD false

def cellStyle (e : Element) : CellStyle := .parse e.cellCss

end Element

end ReportColumns
