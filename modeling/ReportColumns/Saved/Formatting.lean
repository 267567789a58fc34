import ReportColumns.Dialect
import ReportColumns.Locale.Preset
import ReportColumns.Value
import ReportColumns.Vocabulary
/-!
Saved forms of the formatting types: locales, classifications, dialect formats, date-times and raw
values. The names and the defaults are those of the declarations; what is read and written under them follows
the documented rules for derived forms. A choice is the word of its alternative, or an object with the word
and the data. A date-time is saved by the calendar library, in the interchange form that it documents.
-/

namespace ReportColumns

instance : Vocabulary CurrencyPosition where
  all := [.before, .after]
  word
    | .before => "Before"
    | .after => "After"

instance : Vocabulary Classification where
  all := [.numeric, .text, .dateTime, .enumerated]
  word
    | .numeric => "Numeric"
    | .text => "Text"
    | .dateTime => "DateTime"
    | .enumerated => "Enum"

namespace Locale

def fieldNames : List String :=
  ["name", "shortDatePattern", "longDatePattern", "shortTimePattern", "longTimePattern",
    "dateSeparator", "decimalSeparator", "groupSeparator", "currencySymbol", "currencyPosition",
    "amDesignator", "pmDesignator"]

def ofFields? (fields : RecordFields) : Option Locale := do
  return {
    name := ← fields.required 0
    shortDatePattern := ← fields.required 1
    longDatePattern := ← fields.required 2
    shortTimePattern := ← fields.required 3
    longTimePattern := ← fields.required 4
    dateSeparator := ← fields.required 5
    decimalSeparator := ← fields.required 6
    groupSeparator := ← fields.required 7
    currencySymbol := ← fields.required 8
    currencyPosition := ← fields.defaulted 9 .before
    amDesignator := ← fields.defaulted 10 "AM"
    pmDesignator := ← fields.defaulted 11 "PM" }

instance : JsonForm Locale where
  toJson locale := .ofMembers (fieldNames.zip
    [toJson locale.name, toJson locale.shortDatePattern, toJson locale.longDatePattern,
      toJson locale.shortTimePattern, toJson locale.longTimePattern, toJson locale.dateSeparator,
      toJson locale.decimalSeparator, toJson locale.groupSeparator, toJson locale.currencySymbol,
      toJson locale.currencyPosition, toJson locale.amDesignator, toJson locale.pmDesignator])
  ofJson? json := (json.recordFields? fieldNames).bind ofFields?

end Locale

namespace DialectFormats

def fieldNames : List String := ["native", "chart", "spreadsheet"]

instance : JsonForm DialectFormats where
  toJson formats := .ofMembers (fieldNames.zip
    [toJson formats.native, toJson formats.chart, toJson formats.spreadsheet])
  ofJson? json := do
    let fields ← json.recordFields? fieldNames
    return ⟨← fields.required 0, ← fields.required 1, ← fields.required 2⟩

end DialectFormats

instance : JsonForm DateTime where
  toJson moment := .ofString moment.interchangeText
  ofJson?
    | .string (some text) => DateTime.ofInterchange? text.toList
    | _ => none

namespace Value

/-- The value in an object with one member that names its kind. -/
def ofTagged? (kind : String) (json : Json) : Option Value :=
  match kind with
  | "Empty" =>
    match json with
    | .null => some .empty
    | _ => none
  | "Number" => (JsonForm.ofJson? json).map .number
  | "Integer" => (JsonForm.ofJson? json).map .integer
  | "Text" => (JsonForm.ofJson? json).map .text
  | "Boolean" => (JsonForm.ofJson? json).map .boolean
  | "DateTime" => (JsonForm.ofJson? json).map .dateTime
  | _ => none

/-- The empty value is saved as a word, and every other one beside the name of its kind. -/
instance : JsonForm Value where
  toJson
    | .empty => .ofString "Empty"
    | .number x => .ofMembers [("Number", toJson x)]
    | .integer n => .ofMembers [("Integer", toJson n)]
    | .text s => .ofMembers [("Text", toJson s)]
    | .boolean b => .ofMembers [("Boolean", toJson b)]
    | .dateTime moment => .ofMembers [("DateTime", toJson moment)]
  ofJson?
    | .string (some "Empty") => some .empty
    | .object [(some kind, json)] => ofTagged? kind json
    | _ => none

end Value

end ReportColumns
