import ReportColumns.Element.Access
import ReportColumns.Element.Formats
import ReportColumns.Element.Naming
/-!
Questions that depend on the catalog entry of an element. Asking one may look the column up; its answer
is what the settled element says.
-/

namespace ReportColumns

namespace Element.Access

def namesAggregate (entry : CatalogEntry) : Access Bool := do
  let aggregate ← read aggregate
  if (← read placement) == .data then
    return (← isNumeric) && aggregate != .sum && aggregate != .count && !entry.isAggregate
  else return false

def derivedNameIn (dictionary : Dictionary) : Access String := do
  match ← column with
  | none => return ""
  | some entry =>
    if ← namesAggregate entry then
      let words := dictionary.wordsFor s!"{(← read aggregate).label} of"
      return s!"{words} {entry.displayName}"
    else return entry.displayName

def displayName : Access String := do
  let override ← read nameOverride
  if override.isEmpty then derivedNameIn .identity else return override

def displayNameIn (dictionary : Dictionary) : Access String := do
  let override ← read nameOverride
  if override.isEmpty then derivedNameIn dictionary else return dictionary.wordsFor override

def catalogFormat : Access String := do
  return ((← column).map (·.format)).getD ""

def chosenFormat : Access String := do
  let numericPreset ← read numericPreset
  let datePreset ← read datePreset
  let format ← read Element.format
  if (← isNumeric) && numericPreset == .default then catalogFormat
  else if (← isNumeric) && !format.isEmpty then return format
  else if (← isDateTime) && datePreset == .default then catalogFormat
  else if (← isDateTime) && !format.isEmpty then return format
  else if (← isText) && !format.isEmpty then return format
  else catalogFormat

def effectiveFormat : Access String := do
  let chosen ← chosenFormat
  if chosen.isEmpty then return fallbackFormat else return chosen

def chartFormat (locale : Locale) : Access String := do
  report (ReportColumns.chartFormat (← effectiveFormat) (← formatClassification) locale)

def spreadsheetFormat (locale : Locale) : Access String := do
  return ReportColumns.spreadsheetFormat (← effectiveFormat) (← formatClassification) locale

def dialectFormats (locale : Locale) : Access DialectFormats := do
  report (ReportColumns.dialectFormats (← effectiveFormat) (← formatClassification) locale)

def displayValue (value : Value) (locale : Locale) : Access String := do
  if value.isFormattable then report (formatValueOrDefault value (← effectiveFormat) locale)
  else return value.defaultText

def sortKey (kind : EnumDefinition.KeyKind) (key : String) : Access String := do
  let sorted ← read isSorted
  match ← enumeration? with
  | none => return key
  | some enumeration => return enumeration.sortKey sorted kind key

def derivedSql : Access String := do
  let placement ← read placement
  let aggregate ← read aggregate
  match ← column with
  | none => return ""
  | some entry =>
    if placement == .data && !entry.isAggregate then return aggregate.sql entry.name
    else return entry.name

def sqlColumn : Access String := do
  let override ← read sqlOverride
  if override.isEmpty then derivedSql else return override

def hasHtmlTags : Access Bool := do
  match ← read htmlTagsOverride with
  | some tags => return tags
  | none => return ((← column).bind (·.hasHtmlTags)).getD false

end Element.Access

inductive Query where
  | column
  | enumeration?
  | resolvedType
  | isEnum
  | isNumeric
  | isDateTime
  | isText
  | classification
  | formatClassification
  | defaultAggregate
  | policyInputs
  | derivedNameIn (dictionary : Dictionary)
  | displayName
  | displayNameIn (dictionary : Dictionary)
  | effectiveFormat
  | chartFormat (locale : Locale)
  | spreadsheetFormat (locale : Locale)
  | dialectFormats (locale : Locale)
  | displayValue (value : Value) (locale : Locale)
  | sortKey (kind : EnumDefinition.KeyKind) (key : String)
  | derivedSql
  | sqlColumn
  | hasHtmlTags
  deriving DecidableEq, Repr

namespace Query

abbrev Answer : Query → Type
  | .column => Option CatalogEntry
  | .enumeration? => Option EnumDefinition
  | .resolvedType => ColumnType
  | .isEnum | .isNumeric | .isDateTime | .isText | .hasHtmlTags => Bool
  | .classification | .formatClassification => Classification
  | .defaultAggregate => Aggregate
  | .policyInputs => PolicyInputs
  | .dialectFormats _ => DialectFormats
  | .derivedNameIn _ | .displayName | .displayNameIn _ | .effectiveFormat | .chartFormat _
  | .spreadsheetFormat _ | .displayValue _ _ | .sortKey _ _ | .derivedSql | .sqlColumn => String

def ask : (query : Query) → Element.Access query.Answer
  | .column => Element.Access.column
  | .enumeration? => Element.Access.enumeration?
  | .resolvedType => Element.Access.resolvedType
  | .isEnum => Element.Access.isEnum
  | .isNumeric => Element.Access.isNumeric
  | .isDateTime => Element.Access.isDateTime
  | .isText => Element.Access.isText
  | .classification => Element.Access.classification
  | .formatClassification => Element.Access.formatClassification
  | .defaultAggregate => Element.Access.defaultAggregate
  | .policyInputs => Element.Access.policyInputs
  | .derivedNameIn dictionary => Element.Access.derivedNameIn dictionary
  | .displayName => Element.Access.displayName
  | .displayNameIn dictionary => Element.Access.displayNameIn dictionary
  | .effectiveFormat => Element.Access.effectiveFormat
  | .chartFormat locale => Element.Access.chartFormat locale
  | .spreadsheetFormat locale => Element.Access.spreadsheetFormat locale
  | .dialectFormats locale => Element.Access.dialectFormats locale
  | .displayValue value locale => Element.Access.displayValue value locale
  | .sortKey kind key => Element.Access.sortKey kind key
  | .derivedSql => Element.Access.derivedSql
  | .sqlColumn => Element.Access.sqlColumn
  | .hasHtmlTags => Element.Access.hasHtmlTags

def answer : (query : Query) → Element → Logged query.Answer
  | .column, e => pure e.entry
  | .enumeration?, e => pure e.enumeration?
  | .resolvedType, e => pure e.resolvedType
  | .isEnum, e => pure e.isEnum
  | .isNumeric, e => pure e.isNumeric
  | .isDateTime, e => pure e.isDateTime
  | .isText, e => pure e.isText
  | .classification, e => pure e.classification
  | .formatClassification, e => pure e.formatClassification
  | .defaultAggregate, e => pure e.defaultAggregate
  | .policyInputs, e => pure e.policyInputs
  | .derivedNameIn dictionary, e => pure (e.derivedNameIn dictionary)
  | .displayName, e => pure e.displayName
  | .displayNameIn dictionary, e => pure (e.displayNameIn dictionary)
  | .effectiveFormat, e => pure e.effectiveFormat
  | .chartFormat locale, e => e.chartFormat locale
  | .spreadsheetFormat locale, e => pure (e.spreadsheetFormat locale)
  | .dialectFormats locale, e => e.dialectFormats locale
  | .displayValue value locale, e => e.displayValue value locale
  | .sortKey kind key, e => pure (e.sortKey kind key)
  | .derivedSql, e => pure e.derivedSql
  | .sqlColumn, e => pure e.sqlColumn
  | .hasHtmlTags, e => pure e.hasHtmlTags

end Query

end ReportColumns
