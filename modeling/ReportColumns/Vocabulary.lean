import ReportColumns.Json.Record
/-!
Closed vocabularies: types with finitely many members, each with a word of its own. Members are saved
as their words.
-/

namespace ReportColumns

class Vocabulary (α : Type) where
  all : List α
  word : α → String

namespace Vocabulary

def ofWord? (α : Type) [Vocabulary α] (word : String) : Option α :=
  (all : List α).find? (Vocabulary.word · == word)

/-- A member is saved as its word. It is also loaded from an object whose only member has that name
and no value. -/
instance [Vocabulary α] : JsonForm α where
  toJson value := .ofString (word value)
  ofJson?
    | .string (some word) => ofWord? α word
    | .object [(some word, .null)] => ofWord? α word
    | _ => none

end Vocabulary

end ReportColumns
