import ReportColumns.Text.Ranges
import ReportColumns.Text.Hexadecimal
import ReportColumns.Text.Blank
import ReportColumns.Text.Letters
import ReportColumns.Text.Cut
import ReportColumns.Decimal.Rounding
import ReportColumns.Decimal.Binary
import ReportColumns.Decimal.Numeral
import ReportColumns.Decimal.Fixed
import ReportColumns.Decimal.Shortest
import ReportColumns.Decimal.Scientific
import ReportColumns.Locale.Basic
import ReportColumns.FormatError
import ReportColumns.NumberFormat.Glyph
import ReportColumns.NumberFormat.Amount
import ReportColumns.NumberFormat.Specifier
import ReportColumns.NumberFormat.Pattern
import ReportColumns.NumberFormat.Render
import ReportColumns.Calendar.Date
import ReportColumns.Calendar.DateTime
import ReportColumns.Calendar.Text
import ReportColumns.Calendar.Serial
import ReportColumns.Log
import ReportColumns.DatePattern.Scan
import ReportColumns.DatePattern.Tokens
import ReportColumns.DatePattern.Shorthand
import ReportColumns.DatePattern.Render
import ReportColumns.Value
import ReportColumns.Display
import ReportColumns.Dialect
import ReportColumns.Locale.Preset
import ReportColumns.Locale.Tag
import ReportColumns.Json.Basic
import ReportColumns.Json.Text
import ReportColumns.Json.Reader
import ReportColumns.Json.Record
import ReportColumns.Vocabulary
import ReportColumns.Element.Choices
import ReportColumns.Element.SortOrder
import ReportColumns.Element.Property
import ReportColumns.Element.Policy
import ReportColumns.CellStyle
import ReportColumns.Catalog
import ReportColumns.Element.Identity
import ReportColumns.Element.Basic
import ReportColumns.Element.Access
import ReportColumns.Element.Naming
import ReportColumns.Element.Formats
import ReportColumns.Element.Query
import ReportColumns.Element.Edit
import ReportColumns.Session
import ReportColumns.Text.Cased
import ReportColumns.Text.LowerCase
import ReportColumns.Saved.Formatting
import ReportColumns.Saved.Elements
import ReportColumns.Sheet.Column
import ReportColumns.Sheet.Basic
import ReportColumns.Sheet.StoredText
import ReportColumns.Sheet.Workbook
import ReportColumns.Text.Quoted
import ReportColumns.Element.Summary
import ReportColumns.Proofs.Catalog
import ReportColumns.Proofs.Element.Access
import ReportColumns.Proofs.Element.Edited
import ReportColumns.Proofs.Element.Freshness
import ReportColumns.Proofs.Session.Resolution
import ReportColumns.Proofs.Session.Policy
import ReportColumns.Proofs.Session.Snapshot
import ReportColumns.Proofs.Decimal.Numeral
import ReportColumns.Proofs.NumberFormat.Plain
import ReportColumns.Proofs.NumberFormat.Standard
import ReportColumns.Proofs.NumberFormat.Agreement
import ReportColumns.Proofs.NumberFormat.Grouping
import ReportColumns.Proofs.NumberFormat.Integer
import ReportColumns.Proofs.DatePattern.Charts
import ReportColumns.Proofs.DatePattern.Parts
import ReportColumns.Proofs.Element.Format
import ReportColumns.Proofs.Element.Requests
import ReportColumns.Proofs.Element.Calculation
import ReportColumns.Proofs.Element.EffectiveFormat
import ReportColumns.Proofs.Element.Percentages
import ReportColumns.Proofs.Sheet.Export
import ReportColumns.Proofs.Sheet.Writing
import ReportColumns.Proofs.Sheet.Placement
import ReportColumns.Proofs.Sheet.Record
import ReportColumns.Proofs.Sheet.Faults
import ReportColumns.Proofs.NumberFormat.Separators
import ReportColumns.Proofs.NumberFormat.Verbatim
import ReportColumns.Proofs.NumberFormat.Places
import ReportColumns.Proofs.Decimal.Whole
import ReportColumns.Proofs.Rejection
import ReportColumns.Proofs.Element.PlainEdits
import ReportColumns.Proofs.DatePattern.Rounds
import ReportColumns.Proofs.Decimal.Zero
import ReportColumns.Proofs.NumberFormat.Sections
import ReportColumns.Proofs.Json.Reader
import ReportColumns.Proofs.Json.Record
import ReportColumns.Proofs.Element.SortOrder
import ReportColumns.Proofs.Saved
import ReportColumns.Proofs.Decimal.Order
import ReportColumns.Proofs.Element.SortKeys
import ReportColumns.Proofs.Session.DisplayName
import ReportColumns.Proofs.Locale.Tag
import ReportColumns.Proofs.Element.Repetition
import ReportColumns.Proofs.Calendar.Days
import ReportColumns.Proofs.Calendar.Moments
import ReportColumns.Proofs.DatePattern.Sortable
import ReportColumns.Proofs.Decimal.Normal
import ReportColumns.Proofs.Decimal.Integers
import ReportColumns.Proofs.Calendar.Serial
import ReportColumns.Proofs.Sheet.Dates
