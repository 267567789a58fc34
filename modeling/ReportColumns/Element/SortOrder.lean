import ReportColumns.Decimal.Numeral
import ReportColumns.Json.Record
import ReportColumns.Text.Blank
import ReportColumns.Text.Cut
import ReportColumns.Text.Letters
/-!
The sort directive of an element and its text. A directive is written as one of three phrases, or as a
rank and a direction such as `2 Descending`. Reading ignores blanks around the text and around the
direction, and the case of letters.
-/

namespace ReportColumns

open Decimal Text

inductive SortOrder where
  | notSorted
  | automaticAscending
  | automaticDescending
  /-- Ranks are compared across all elements of a model. -/
  | ascending (rank : UInt32)
  | descending (rank : UInt32)
  deriving DecidableEq, Repr

instance : Inhabited SortOrder := ⟨.automaticAscending⟩

structure InvalidSortOrder where
  text : String
  deriving DecidableEq, Repr

def InvalidSortOrder.message (rejection : InvalidSortOrder) : String :=
  s!"Invalid sort order: {rejection.text}"

namespace SortOrder

def isSorted (order : SortOrder) : Bool := order != .notSorted

def isDescending : SortOrder → Bool
  | .automaticDescending | .descending _ => true
  | _ => false

def notSortedPhrase : List Char := "Not sorted".toList

def automaticAscendingPhrase : List Char := "Automatic Ascending".toList

def automaticDescendingPhrase : List Char := "Automatic Descending".toList

def chars : SortOrder → List Char
  | .notSorted => notSortedPhrase
  | .automaticAscending => automaticAscendingPhrase
  | .automaticDescending => automaticDescendingPhrase
  | .ascending rank => digits rank.toNat ++ ' ' :: "Ascending".toList
  | .descending rank => digits rank.toNat ++ ' ' :: "Descending".toList

def text (order : SortOrder) : String := String.ofList order.chars

def readRank? (text : List Char) : Option UInt32 :=
  let ds := if text.head? = some '+' then text.drop 1 else text
  if ds.isEmpty || !ds.all Char.isDigit then none
  else if ofDigits ds < Nat.pow 2 32 then some (UInt32.ofNat (ofDigits ds))
  else none

def readRanked? (text : List Char) : Option SortOrder := do
  let (rankText, direction) ← cut? ' ' text
  let rank ← readRank? rankText
  if sameIgnoringCase (trim direction) "Ascending".toList then some (.ascending rank)
  else if sameIgnoringCase (trim direction) "Descending".toList then some (.descending rank)
  else none

/-- An empty text means that the element is not sorted. -/
def ofChars? (text : List Char) : Option SortOrder :=
  let trimmed := trim text
  if trimmed.isEmpty || sameIgnoringCase trimmed notSortedPhrase then some .notSorted
  else if sameIgnoringCase trimmed automaticAscendingPhrase then some .automaticAscending
  else if sameIgnoringCase trimmed automaticDescendingPhrase then some .automaticDescending
  else readRanked? trimmed

def parse (text : String) : Except InvalidSortOrder SortOrder :=
  match ofChars? text.toList with
  | some order => .ok order
  | none => .error ⟨text⟩

instance : JsonForm SortOrder where
  toJson order := .ofString order.text
  ofJson?
    | .string (some text) => (parse text).toOption
    | _ => none

end SortOrder

end ReportColumns
