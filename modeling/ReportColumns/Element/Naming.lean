import ReportColumns.Element.Basic
/-!
Display names of elements, as they are and in the words of a dictionary.

A name that is not overridden is derived from the column. A Data element whose aggregate is neither a
sum nor a count puts the aggregate in front, as in `Average of Amount`.
-/

namespace ReportColumns

structure Dictionary where
  entries : List (String × String)
  deriving DecidableEq, Repr

namespace Dictionary

def identity : Dictionary := ⟨[]⟩

def insert (dictionary : Dictionary) (text words : String) : Dictionary :=
  ⟨(text, words) :: dictionary.entries⟩

def wordsFor (dictionary : Dictionary) (text : String) : String :=
  (dictionary.entries.lookup text).getD text

end Dictionary

namespace Element

def namesAggregate (e : Element) (entry : CatalogEntry) : Bool :=
  e.placement == .data && e.isNumeric && e.aggregate != .sum && e.aggregate != .count &&
    !entry.isAggregate

def derivedNameIn (e : Element) (dictionary : Dictionary) : String :=
  match e.entry with
  | none => ""
  | some entry =>
    if e.namesAggregate entry then
      let words := dictionary.wordsFor s!"{e.aggregate.label} of"
      s!"{words} {entry.displayName}"
    else entry.displayName

def derivedName (e : Element) : String := e.derivedNameIn .identity

def displayName (e : Element) : String :=
  if e.nameOverride.isEmpty then e.derivedName else e.nameOverride

def displayNameIn (e : Element) (dictionary : Dictionary) : String :=
  if e.nameOverride.isEmpty then e.derivedNameIn dictionary
  else dictionary.wordsFor e.nameOverride

end Element

end ReportColumns
