import ReportColumns.Json.Reader
import ReportColumns.Json.Text
/-!
Reading typed data from JSON values.

These are the documented rules of the library for types whose forms are derived from their declarations. A
record is an object with named members or an array with one item per field, in the order of the fields. In an
object a field may stand only once and members without a field are ignored. In an array only fields with a
default may be left out at the end. A field that is missing is an error, unless it has a default or may be
without a value.
-/

namespace ReportColumns

class JsonForm (α : Type) where
  toJson : α → Json
  ofJson? : Json → Option α

export JsonForm (toJson)

def save [JsonForm α] (value : α) : String := (toJson value).text

def load? (α : Type) [JsonForm α] (text : String) : Option α :=
  (Json.ofText? text).bind JsonForm.ofJson?

instance : JsonForm String where
  toJson := Json.ofString
  ofJson?
    | .string text => text
    | _ => none

instance : JsonForm Bool where
  toJson := .bool
  ofJson?
    | .bool b => some b
    | _ => none

instance : JsonForm Int64 where
  toJson n := .ofInt n.toInt
  ofJson?
    | .number n =>
      n.toInt?.bind fun value =>
        if Int64.minValue.toInt ≤ value ∧ value ≤ Int64.maxValue.toInt then some (Int64.ofInt value)
        else none
    | _ => none

instance : JsonForm Float where
  toJson := Json.ofFloat
  ofJson?
    | .number n => n.toFloat?
    | _ => none

instance [JsonForm α] : JsonForm (List α) where
  toJson items := .array (items.map toJson)
  ofJson?
    | .array items => items.mapM JsonForm.ofJson?
    | _ => none

instance [JsonForm α] : JsonForm (Option α) where
  toJson
    | some value => toJson value
    | none => .null
  ofJson?
    | .null => some none
    | json => (JsonForm.ofJson? json).map some

structure RecordFields where
  named : Bool
  /-- One entry for each field of the record, empty where the field is missing. -/
  found : List (Option Json)

namespace Json

def recordFields? (names : List String) : Json → Option RecordFields
  | .object members => do
    let named ← members.mapM fun member => member.1.map fun name => (name, member.2)
    if names.all fun name => (named.countP fun member => member.1 == name) ≤ 1 then
      some ⟨true, names.map fun name => (named.find? (·.1 == name)).map (·.2)⟩
    else none
  | .array items =>
    if items.length ≤ names.length then
      some ⟨false, (items.map some) ++ List.replicate (names.length - items.length) none⟩
    else none
  | _ => none

/-- A member of an object by its name. Of repeated names the last one counts. -/
def member? (json : Json) (name : String) : Option Json :=
  match json with
  | .object members => (members.findRev? (·.1 == some name)).map (·.2)
  | _ => none

end Json

namespace RecordFields

def at? (fields : RecordFields) (index : Nat) : Option Json := (fields.found[index]?).join

def required [JsonForm α] (fields : RecordFields) (index : Nat) : Option α :=
  (fields.at? index).bind JsonForm.ofJson?

def defaulted [JsonForm α] (fields : RecordFields) (index : Nat) (default : α) : Option α :=
  match fields.at? index with
  | some json => JsonForm.ofJson? json
  | none => some default

def optional [JsonForm α] (fields : RecordFields) (index : Nat) : Option (Option α) :=
  match fields.at? index with
  | some json => JsonForm.ofJson? json
  | none => if fields.named then some none else none

end RecordFields

end ReportColumns
