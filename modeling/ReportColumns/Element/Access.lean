import ReportColumns.Element.Basic
/-!
Computations on an element that may look its column up on the way.

A computation sees the catalogs as they are at that moment. The first one that needs the entry of an
element with an empty cell fills the cell; all others find it filled. Each question here asks for the
entry only where its answer depends on it, so a question that is decided by other settings looks
nothing up.
-/

namespace ReportColumns

namespace Element

def Access (α : Type) : Type := CatalogStore → Element → Logged (α × Element)

end Element

namespace Element.Access

instance : Monad Access where
  pure a := fun _ e => pure (a, e)
  bind first next := fun catalogs e => do
    let (a, e) ← first catalogs e
    next a catalogs e

def read (setting : Element → α) : Access α := fun _ e => pure (setting e, e)

def change (f : Element → Element) : Access Unit := fun _ e => pure ((), f e)

def report (logged : Logged α) : Access α := fun _ e => do return (← logged, e)

def column : Access (Option CatalogEntry) := fun catalogs e => do
  let e ← e.settle catalogs
  return (e.entry, e)

def enumeration? : Access (Option EnumDefinition) := do
  return (← column).bind (·.enumeration)

def resolvedType : Access ColumnType := do
  let override ← read columnType
  if override != .default then return override
  else
    match (← column).map CatalogEntry.columnType with
    | none => return .text
    | some .default => return .text
    | some declared => return declared

def isEnum : Access Bool := do
  if ← read countsRows then return false
  else return (← enumeration?).isSome

def isNumeric : Access Bool := do
  if ← read countsRows then return true
  else return (← resolvedType) == .numeric

def isDateTime : Access Bool := do
  if ← read countsRows then return false
  else return (← resolvedType) == .dateTime

def isText : Access Bool := do
  if ← read countsRows then return false
  else return (← resolvedType) == .text

def formatClassification : Access Classification := do
  if ← isNumeric then return .numeric
  else if ← isDateTime then return .dateTime
  else return .text

def classification : Access Classification := do
  if ← read countsRows then return .numeric
  else if (← enumeration?).isSome then return .enumerated
  else formatClassification

def defaultAggregate : Access Aggregate := do
  if (← enumeration?).isSome then return .count
  else
    match ← resolvedType with
    | .numeric => return .sum
    | .dateTime => return .max
    | .default | .text => return .count

def policyInputs : Access PolicyInputs := do
  return {
    placement := ← read placement
    serieRole := ← read serieRole
    pointSortKey := ← read pointSortKey
    showTotal := ← read showTotal
    numericPreset := ← read numericPreset
    datePreset := ← read datePreset
    isEnum := ← isEnum
    isNumeric := ← isNumeric
    isDateTime := ← isDateTime
    columnIsAggregate := (← column).any (·.isAggregate)
    sourceIsNoSql := (← read source).any (·.noSql) }

def refreshPolicy : Access Unit := do
  let inputs ← policyInputs
  change fun e => { e with policy := .derive inputs }

/-- Empties the cell. The policy is derived again at once, and that looks the reference up. -/
def invalidate : Access Unit := do
  change fun e => { e with cell := none }
  refreshPolicy

end Element.Access

namespace Element

def after (catalogs : CatalogStore) (e : Element) (access : Access Unit) : Logged Element := do
  return (← access catalogs e).2

def blank : Element := (bare.after ⟨[]⟩ Access.refreshPolicy).value

def create (id : String) : Element := { blank with id }

def forColumn (catalogs : CatalogStore) (id : String) (source : CatalogSource) (columnId : String) :
    Logged Element :=
  { create id with source := some source, columnId }.after catalogs Access.invalidate

end Element

end ReportColumns
