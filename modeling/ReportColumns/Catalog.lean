import ReportColumns.Element.Choices
/-!
The column catalog that elements take their defaults from.

Catalogs are owned outside of elements and may change at any time. They are kept by name in a store, so
that an operation on an element can be given the catalogs as they are at that moment.
-/

namespace ReportColumns

structure EnumValue where
  id : String
  displayValue : String
  deriving DecidableEq, Repr

structure EnumDefinition where
  name : String
  /-- Whether values sort by their declared position instead of by their display value. -/
  usePosition : Bool
  values : List EnumValue
  deriving DecidableEq, Repr

namespace EnumDefinition

inductive KeyKind where
  | id
  | displayValue
  deriving DecidableEq, Repr

def KeyKind.of (kind : KeyKind) (value : EnumValue) : String :=
  match kind with
  | .id => value.id
  | .displayValue => value.displayValue

def find? (definition : EnumDefinition) (kind : KeyKind) (key : String) : Option EnumValue :=
  definition.values.find? (kind.of · == key)

/-- The last declared position that holds a value. -/
def lastPosition? (definition : EnumDefinition) (value : EnumValue) : Option Nat :=
  (definition.values.reverse.idxOf? value).map (definition.values.length - 1 - ·)

end EnumDefinition

structure CatalogEntry where
  id : String
  name : String
  displayName : String
  columnType : ColumnType
  /-- The native default format, which may be empty. -/
  format : String
  /-- Whether the column is already aggregated where it comes from. -/
  isAggregate : Bool
  hasHtmlTags : Option Bool
  enumeration : Option EnumDefinition
  deriving DecidableEq, Repr

inductive CatalogError where
  | noColumnReference
  | noSource
  | columnNotFound (columnId : String)
  deriving DecidableEq, Repr

def CatalogError.message : CatalogError → String
  | .noColumnReference => "Element has no column reference"
  | .noSource => "No catalog source attached to element"
  | .columnNotFound columnId => s!"Column not found in catalog: {columnId}"

structure Catalog where
  entries : List CatalogEntry
  /-- Whether there is no query layer, so that queries and type overrides do not apply. -/
  noSql : Bool
  deriving DecidableEq, Repr

namespace Catalog

def empty (noSql : Bool) : Catalog := ⟨[], noSql⟩

def lookup (catalog : Catalog) (columnId : String) : Except CatalogError CatalogEntry :=
  match catalog.entries.find? (·.id == columnId) with
  | some entry => .ok entry
  | none => .error (.columnNotFound columnId)

def remove (catalog : Catalog) (columnId : String) : Catalog :=
  { catalog with entries := catalog.entries.filter (·.id != columnId) }

def insert (catalog : Catalog) (entry : CatalogEntry) : Catalog :=
  { catalog with entries := entry :: (catalog.remove entry.id).entries }

def size (catalog : Catalog) : Nat := catalog.entries.length

theorem lookup_insert_self (catalog : Catalog) (entry : CatalogEntry) :
    (catalog.insert entry).lookup entry.id = .ok entry := by
  simp [lookup, insert]

end Catalog

structure CatalogStore where
  catalogs : List (String × Catalog)
  deriving DecidableEq, Repr

namespace CatalogStore

def get? (store : CatalogStore) (name : String) : Option Catalog := store.catalogs.lookup name

def put (store : CatalogStore) (name : String) (catalog : Catalog) : CatalogStore :=
  ⟨(name, catalog) :: store.catalogs.filter (·.1 != name)⟩

def update (store : CatalogStore) (name : String) (change : Catalog → Catalog) : CatalogStore :=
  match store.get? name with
  | some catalog => store.put name (change catalog)
  | none => store

end CatalogStore

/-- A catalog as an element is attached to it. Whether it has a query layer never changes, so it is
kept with the attachment. -/
structure CatalogSource where
  catalog : String
  noSql : Bool
  deriving DecidableEq, Repr

def CatalogStore.source? (store : CatalogStore) (name : String) : Option CatalogSource :=
  (store.get? name).map fun catalog => ⟨name, catalog.noSql⟩

def CatalogStore.lookup (store : CatalogStore) (source : CatalogSource) (columnId : String) :
    Except CatalogError CatalogEntry :=
  match store.get? source.catalog with
  | some catalog => catalog.lookup columnId
  | none => .error (.columnNotFound columnId)

end ReportColumns
