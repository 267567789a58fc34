import ReportColumns.Element.Basic
import ReportColumns.Text.Quoted
/-!
A one-line description of an element for diagnostics. It names the main settings and leaves the others
out.
-/

namespace ReportColumns.Element

open Text

def roleWord (e : Element) : String :=
  match e.serieRole with
  | .clientSerie => "Nvd3Serie"
  | role => Vocabulary.word role

def summaryFields (e : Element) : List (String × String) :=
  [("id", quoted e.id), ("column_id", quoted e.columnId),
    ("has_source", if e.source.isSome then "true" else "false"),
    ("pivot_position", Vocabulary.word e.placement), ("display_name", quoted e.nameOverride),
    ("column_type", Vocabulary.word e.columnType), ("format", quoted e.format),
    ("aggregate_function", Vocabulary.word e.aggregate), ("serie_definition", e.roleWord)]

def summary (e : Element) : String :=
  let fields := e.summaryFields.map fun field => field.1 ++ ": " ++ field.2 ++ ", "
  "ReportElement \x7b " ++ String.join fields ++ ".. \x7d"

end ReportColumns.Element
