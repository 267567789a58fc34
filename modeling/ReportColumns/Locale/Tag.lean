import ReportColumns.Locale.Preset
import ReportColumns.Log
import ReportColumns.Text.Blank
import ReportColumns.Text.Cut
import ReportColumns.Text.Letters
/-!
Finding a built-in locale by a tag such as `fr-FR`, `fr_FR.UTF-8` or `de`, and by the variables of the
environment. A preset with exactly the name wins; otherwise the first preset of the same language is
taken.
-/

namespace ReportColumns

open Text

structure UnknownLocale where
  tag : String
  deriving DecidableEq, Repr

def UnknownLocale.message (rejection : UnknownLocale) : String := s!"Unknown locale: {rejection.tag}"

namespace Locale

def isInvariant (locale : Locale) : Bool := locale.name.isEmpty

def languagePart (name : List Char) : List Char := before '-' name

def language (locale : Locale) : String := String.ofList (languagePart locale.name.toList)

/-- The part of a tag that counts: what stands before the first point, without blanks at its ends and
with hyphens in place of underscores. -/
def normalizeTag (tag : List Char) : List Char :=
  (trim (before '.' tag)).map fun c => if c = '_' then '-' else c

def ofNormalizedTag? (tag : List Char) : Option Locale :=
  if tag.isEmpty || sameIgnoringCase tag "invariant".toList then some invariant
  else
    (presets.find? fun preset =>
      !preset.isInvariant && sameIgnoringCase preset.name.toList tag).or
    (presets.find? fun preset =>
      sameIgnoringCase (languagePart preset.name.toList) (languagePart tag))

def ofTag (tag : String) : Except UnknownLocale Locale :=
  match ofNormalizedTag? (normalizeTag tag.toList) with
  | some locale => .ok locale
  | none => .error ⟨tag⟩

structure Environment where
  language : Option String
  lcAll : Option String
  lcMessages : Option String
  lang : Option String
  deriving DecidableEq, Repr

/-- The tag that the environment asks for: the first variable that is not empty, up to an encoding or
a modifier. The first variable is a list, of which the first entry counts, even when it is empty. -/
def Environment.tag? (environment : Environment) : Option (List Char) :=
  let filled (setting : Option String) : Option (List Char) :=
    (setting.map String.toList).filter (!·.isEmpty)
  let named := ((filled environment.language).map (before ':')).or <|
    (filled environment.lcAll).or <| (filled environment.lcMessages).or (filled environment.lang)
  named.map fun text =>
    (text.takeWhile fun c => c != '.' && c != '@').map fun c => if c = '_' then '-' else c

/-- The locale of the running system. It is the invariant one when the environment names none, and,
with a log line, when it names one that is not built in. -/
def ofEnvironment (environment : Environment) : Logged Locale :=
  match environment.tag? with
  | none => pure invariant
  | some tag =>
    match ofTag (String.ofList tag) with
    | .ok locale => pure locale
    | .error rejection => do
      .log .debug .locale s!"{rejection.message}, using invariant"
      return invariant

end Locale

end ReportColumns
