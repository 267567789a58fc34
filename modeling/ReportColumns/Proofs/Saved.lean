import ReportColumns.Proofs.Element.SortOrder
import ReportColumns.Proofs.Json.Record
import ReportColumns.Saved.Elements
import ReportColumns.Saved.Formatting
import ReportColumns.Sheet.Column
/-!
Saved configuration loads as it was saved: locales, enumerations, catalog entries, export columns, dialect
formats and sort directives, whatever characters their texts hold. A locale that was saved without its
currency position or a designator takes the default for it, and no other member of it may be missing.
-/

namespace ReportColumns

open LawfulJsonForm

instance : LawfulJsonForm CurrencyPosition :=
  .vocabulary (by intro position; cases position <;> decide)

instance : LawfulJsonForm Classification :=
  .vocabulary (by intro classification; cases classification <;> decide)

instance : LawfulJsonForm ColumnType :=
  .vocabulary (by intro kind; cases kind <;> decide)

instance : LawfulJsonForm SortOrder where
  ofJson?_toJson order := by
    change (SortOrder.parse order.text).toOption = some order
    rw [SortOrder.parse_text]
    rfl
  numberFree order := .string order.text

instance : LawfulJsonForm EnumValue where
  ofJson?_toJson value := by
    apply (bind_recordFields?_saved (by decide) rfl _).trans
    simp [RecordFields.required, RecordFields.at?, ofJson?_toJson]
  numberFree value := numberFree_record (by simp [numberFree])

instance : LawfulJsonForm EnumDefinition where
  ofJson?_toJson definition := by
    apply (bind_recordFields?_saved (by decide) rfl _).trans
    simp [RecordFields.required, RecordFields.at?, ofJson?_toJson]
  numberFree definition := numberFree_record (by simp [numberFree])

instance : LawfulJsonForm (Option Bool) := .option fun _ => nofun

instance : LawfulJsonForm (Option EnumDefinition) := .option fun _ => nofun

instance : LawfulJsonForm CatalogEntry where
  ofJson?_toJson entry := by
    apply (bind_recordFields?_saved (by decide) rfl _).trans
    simp [RecordFields.required, RecordFields.optional, RecordFields.at?, ofJson?_toJson]
  numberFree entry := numberFree_record (by simp [numberFree])

instance : LawfulJsonForm ExportColumn where
  ofJson?_toJson column := by
    apply (bind_recordFields?_saved (by decide) rfl _).trans
    simp [RecordFields.required, RecordFields.at?, ofJson?_toJson]
  numberFree column := numberFree_record (by simp [numberFree])

instance : LawfulJsonForm DialectFormats where
  ofJson?_toJson formats := by
    apply (bind_recordFields?_saved (by decide) rfl _).trans
    simp [RecordFields.required, RecordFields.at?, ofJson?_toJson]
  numberFree formats := numberFree_record (by simp [numberFree])

instance : LawfulJsonForm Locale where
  ofJson?_toJson locale := by
    apply (bind_recordFields?_saved (by decide) rfl _).trans
    simp [Locale.ofFields?, RecordFields.required, RecordFields.defaulted, RecordFields.at?,
      ofJson?_toJson]
  numberFree locale := numberFree_record (by simp [numberFree])

namespace Locale

def defaultedNames : List String := ["currencyPosition", "amDesignator", "pmDesignator"]

def fieldValues (locale : Locale) : List Json :=
  [toJson locale.name, toJson locale.shortDatePattern, toJson locale.longDatePattern,
    toJson locale.shortTimePattern, toJson locale.longTimePattern, toJson locale.dateSeparator,
    toJson locale.decimalSeparator, toJson locale.groupSeparator, toJson locale.currencySymbol,
    toJson locale.currencyPosition, toJson locale.amDesignator, toJson locale.pmDesignator]

def withDefaults (locale : Locale) (removed : List String) : Locale :=
  { locale with
    currencyPosition := if "currencyPosition" ∈ removed then .before else locale.currencyPosition
    amDesignator := if "amDesignator" ∈ removed then "AM" else locale.amDesignator
    pmDesignator := if "pmDesignator" ∈ removed then "PM" else locale.pmDesignator }

theorem ofJson?_without (locale : Locale) (removed : List String) :
    JsonForm.ofJson? ((toJson locale).without removed) =
      if ∀ name ∈ fieldNames, name ∈ removed → name ∈ defaultedNames then
        some (locale.withDefaults removed)
      else none := by
  have read := recordFields?_saved_without (by decide : fieldNames.Nodup)
    (by rfl : fieldNames.length = locale.fieldValues.length) removed
  have held (index : Nat) := RecordFields.at?_map true (fieldNames.zip locale.fieldValues)
    (fun member => if member.1 ∈ removed then none else some member.2) index
  change (((Json.ofMembers (fieldNames.zip locale.fieldValues)).without removed).recordFields?
    fieldNames).bind ofFields? = _
  rw [read, Option.bind_some, ofFields?,
    RecordFields.required_unless (held 0), RecordFields.required_unless (held 1),
    RecordFields.required_unless (held 2), RecordFields.required_unless (held 3),
    RecordFields.required_unless (held 4), RecordFields.required_unless (held 5),
    RecordFields.required_unless (held 6), RecordFields.required_unless (held 7),
    RecordFields.required_unless (held 8), RecordFields.defaulted_unless (held 9),
    RecordFields.defaulted_unless (held 10), RecordFields.defaulted_unless (held 11)]
  simp only [Option.bind_eq_bind, bind_unless, Option.bind_some, ← ite_or]
  -- The nine members without a default must all be kept.
  rw [← ite_not]
  simp [fieldNames, defaultedNames, withDefaults]

end Locale

theorem saved_configuration_loads :
    (∀ locale : Locale, load? Locale (save locale) = some locale) ∧
    (∀ definition : EnumDefinition, load? EnumDefinition (save definition) = some definition) ∧
    (∀ entry : CatalogEntry, load? CatalogEntry (save entry) = some entry) ∧
    (∀ column : ExportColumn, load? ExportColumn (save column) = some column) ∧
    (∀ formats : DialectFormats, load? DialectFormats (save formats) = some formats) ∧
    (∀ order : SortOrder, load? SortOrder (save order) = some order) ∧
    ∀ (locale : Locale) (removed : List String),
      load? Locale ((toJson locale).without removed).text =
        if ∀ name ∈ Locale.fieldNames, name ∈ removed → name ∈ Locale.defaultedNames then
          some (locale.withDefaults removed)
        else none := by
  refine ⟨load?_save, load?_save, load?_save, load?_save, load?_save, load?_save, ?_⟩
  intro locale removed
  have free : ((toJson locale).without removed).NumberFree := (numberFree locale).without removed
  rw [load?_text free, Locale.ofJson?_without]

example : save (EnumValue.mk "\t1" "\x01\"é\"") =
    "\x7b\"id\":\"\\t1\",\"display_value\":\"\\u0001\\\"é\\\"\"\x7d" := by
  decide

end ReportColumns
