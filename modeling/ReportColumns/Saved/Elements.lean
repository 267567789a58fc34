import ReportColumns.Catalog
import ReportColumns.CellStyle
import ReportColumns.Element.Policy
/-!
Saved forms of catalog entries, property states and cell styles, by the documented rules for derived forms.
-/

namespace ReportColumns

namespace EnumValue

def fieldNames : List String := ["id", "display_value"]

instance : JsonForm EnumValue where
  toJson value := .ofMembers (fieldNames.zip [toJson value.id, toJson value.displayValue])
  ofJson? json := do
    let fields ← json.recordFields? fieldNames
    return ⟨← fields.required 0, ← fields.required 1⟩

end EnumValue

namespace EnumDefinition

def fieldNames : List String := ["name", "use_position", "values"]

instance : JsonForm EnumDefinition where
  toJson definition := .ofMembers (fieldNames.zip
    [toJson definition.name, toJson definition.usePosition, toJson definition.values])
  ofJson? json := do
    let fields ← json.recordFields? fieldNames
    return ⟨← fields.required 0, ← fields.required 1, ← fields.required 2⟩

end EnumDefinition

namespace CatalogEntry

def fieldNames : List String :=
  ["id", "name", "display_name", "column_type", "format", "is_aggregate", "has_html_tags",
    "enumeration"]

instance : JsonForm CatalogEntry where
  toJson entry := .ofMembers (fieldNames.zip
    [toJson entry.id, toJson entry.name, toJson entry.displayName, toJson entry.columnType,
      toJson entry.format, toJson entry.isAggregate, toJson entry.hasHtmlTags,
      toJson entry.enumeration])
  ofJson? json := do
    let fields ← json.recordFields? fieldNames
    return {
      id := ← fields.required 0
      name := ← fields.required 1
      displayName := ← fields.required 2
      columnType := ← fields.required 3
      format := ← fields.required 4
      isAggregate := ← fields.required 5
      hasHtmlTags := ← fields.optional 6
      enumeration := ← fields.optional 7 }

end CatalogEntry

namespace PropertyState

def fieldNames : List String := ["browsable", "read_only"]

instance : JsonForm PropertyState where
  toJson state := .ofMembers (fieldNames.zip [toJson state.browsable, toJson state.readOnly])
  ofJson? json := do
    let fields ← json.recordFields? fieldNames
    return ⟨← fields.required 0, ← fields.required 1⟩

end PropertyState

namespace CellStyle

def fieldNames : List String := ["styles"]

instance : JsonForm CellStyle where
  toJson style := .ofMembers (fieldNames.zip [toJson style.styles])
  ofJson? json := do
    let fields ← json.recordFields? fieldNames
    return ⟨← fields.required 0⟩

end CellStyle

end ReportColumns
