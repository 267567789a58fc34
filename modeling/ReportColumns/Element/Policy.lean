import ReportColumns.Element.Choices
import ReportColumns.Element.Property
/-!
The editor policy: which properties of an element an editor shows, and which of them are read-only. It
is a table over a few facts about the element and never touches the values of the properties.
-/

namespace ReportColumns

structure PropertyState where
  browsable : Bool
  readOnly : Bool
  deriving DecidableEq, Repr

def PropertyState.isEditable (state : PropertyState) : Bool := state.browsable && !state.readOnly

def PropertyState.unlisted : PropertyState := ⟨false, false⟩

structure PolicyInputs where
  placement : Placement
  serieRole : SerieRole
  pointSortKey : PointSortKey
  showTotal : ShowTotal
  numericPreset : NumericPreset
  datePreset : DatePreset
  isEnum : Bool
  isNumeric : Bool
  isDateTime : Bool
  columnIsAggregate : Bool
  sourceIsNoSql : Bool
  deriving DecidableEq, Repr, Inhabited

namespace PolicyInputs

def isData (inputs : PolicyInputs) : Bool := inputs.placement == .data

def isSerie (inputs : PolicyInputs) : Bool := inputs.serieRole.isSerie

def showsFormat (inputs : PolicyInputs) : Bool :=
  inputs.isEnum || inputs.isDateTime || inputs.isNumeric

/-- Free text is locked unless the selector of the values' kind is set to custom. -/
def locksFormat (inputs : PolicyInputs) : Bool :=
  (inputs.isNumeric && inputs.numericPreset != .custom) ||
    (inputs.isDateTime && inputs.datePreset != .custom)

def state (inputs : PolicyInputs) : ElementProperty → PropertyState
  | .displayName | .sortOrder | .cellCss | .hasHtmlTags | .cellScript => ⟨true, false⟩
  | .sql | .columnType => ⟨!inputs.sourceIsNoSql, false⟩
  | .format => ⟨inputs.showsFormat, inputs.locksFormat⟩
  | .numericPreset => ⟨inputs.showsFormat && inputs.isNumeric, false⟩
  | .datePreset => ⟨inputs.showsFormat && inputs.isDateTime, false⟩
  | .aggregate => ⟨inputs.isData && !inputs.columnIsAggregate, false⟩
  | .showTotal => ⟨inputs.isData, false⟩
  | .totalAggregate => ⟨inputs.isData, inputs.showTotal == .no⟩
  | .calculation => ⟨inputs.isData && inputs.isNumeric, false⟩
  | .serieRole => ⟨inputs.placement != .page, false⟩
  | .serverChart => ⟨inputs.isData && inputs.serieRole == .serie, inputs.serieRole != .serie⟩
  | .clientChart =>
    ⟨inputs.isData && inputs.serieRole == .clientSerie, inputs.serieRole != .clientSerie⟩
  | .xAxis =>
    ⟨inputs.placement == .row || inputs.placement == .column ||
        (inputs.isData && inputs.serieRole == .serie),
      inputs.serieRole == .none || inputs.serieRole == .clientSerie ||
        inputs.serieRole == .splitterBoth⟩
  | .yAxis => ⟨inputs.isData, !inputs.isSerie⟩
  | .pointOrder =>
    ⟨inputs.isData && inputs.isSerie, !inputs.isSerie || inputs.pointSortKey == .none⟩
  | .pointSortKey => ⟨inputs.isData && inputs.isSerie, !inputs.isSerie⟩
  | .axisUseValues =>
    ⟨!inputs.isData && (inputs.isNumeric || inputs.isDateTime), inputs.serieRole != .axis⟩
  | .drillEnabled | .subReportsEnabled => .unlisted

end PolicyInputs

/-- The states of the properties. A property that is not listed is hidden and not locked. -/
structure EditorPolicy where
  states : List (ElementProperty × PropertyState)
  deriving DecidableEq, Repr

namespace EditorPolicy

def empty : EditorPolicy := ⟨[]⟩

def derive (inputs : PolicyInputs) : EditorPolicy :=
  ⟨ElementProperty.all.map fun property => (property, inputs.state property)⟩

def state (policy : EditorPolicy) (property : ElementProperty) : PropertyState :=
  (policy.states.lookup property).getD .unlisted

def isBrowsable (policy : EditorPolicy) (property : ElementProperty) : Bool :=
  (policy.state property).browsable

def isReadOnly (policy : EditorPolicy) (property : ElementProperty) : Bool :=
  (policy.state property).readOnly

def isEditable (policy : EditorPolicy) (property : ElementProperty) : Bool :=
  (policy.state property).isEditable

def ensureWritable (policy : EditorPolicy) (property : ElementProperty) :
    Except PropertyError Unit :=
  if policy.isReadOnly property then .error (.readOnly property) else .ok ()

def browsable (policy : EditorPolicy) : List ElementProperty :=
  ElementProperty.all.filter policy.isBrowsable

def editable (policy : EditorPolicy) : List ElementProperty :=
  ElementProperty.all.filter policy.isEditable

theorem state_derive (inputs : PolicyInputs) (property : ElementProperty) :
    (derive inputs).state property = inputs.state property := by
  cases property <;> rfl

end EditorPolicy

end ReportColumns
