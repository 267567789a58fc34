import ReportColumns.Locale.Basic
/-!
The built-in locales.
-/

namespace ReportColumns.Locale

def invariant : Locale where
  name := ""
  shortDatePattern := "MM/dd/yyyy"
  longDatePattern := "dddd, dd MMMM yyyy"
  shortTimePattern := "HH:mm"
  longTimePattern := "HH:mm:ss"
  dateSeparator := "/"
  decimalSeparator := "."
  groupSeparator := ","
  currencySymbol := "¤"
  currencyPosition := .before
  amDesignator := "AM"
  pmDesignator := "PM"

def enUS : Locale :=
  { invariant with
    name := "en-US"
    shortDatePattern := "M/d/yyyy"
    longDatePattern := "dddd, MMMM d, yyyy"
    shortTimePattern := "h:mm tt"
    longTimePattern := "h:mm:ss tt"
    currencySymbol := "$" }

def enGB : Locale :=
  { invariant with
    name := "en-GB"
    shortDatePattern := "dd/MM/yyyy"
    longDatePattern := "dd MMMM yyyy"
    currencySymbol := "£"
    amDesignator := "am"
    pmDesignator := "pm" }

def frFR : Locale :=
  { invariant with
    name := "fr-FR"
    shortDatePattern := "dd/MM/yyyy"
    longDatePattern := "dddd d MMMM yyyy"
    decimalSeparator := ","
    groupSeparator := "\u00a0"
    currencySymbol := " €"
    currencyPosition := .after }

def deDE : Locale :=
  { invariant with
    name := "de-DE"
    shortDatePattern := "dd.MM.yyyy"
    longDatePattern := "dddd, d. MMMM yyyy"
    dateSeparator := "."
    decimalSeparator := ","
    groupSeparator := "."
    currencySymbol := " €"
    currencyPosition := .after }

def presets : List Locale := [invariant, enUS, enGB, frFR, deDE]

end ReportColumns.Locale
