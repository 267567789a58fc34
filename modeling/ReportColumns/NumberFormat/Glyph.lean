import ReportColumns.Decimal.Numeral
import ReportColumns.Locale.Basic
/-!
Numeric text before the locale's separators are written into it.

Rendering produces glyphs: characters, and marks for the two separators. Only the last step looks at
the locale's separator texts, so they can never take part in any decision before it.
-/

namespace ReportColumns

open Decimal

inductive Glyph where
  | char (c : Char)
  | decimalMark
  | groupMark
  deriving DecidableEq, Repr

def Glyph.write (locale : Locale) : Glyph → List Char
  | .char c => [c]
  | .decimalMark => locale.decimalSeparator.toList
  | .groupMark => locale.groupSeparator.toList

def writeGlyphs (locale : Locale) (glyphs : List Glyph) : List Char :=
  glyphs.flatMap (Glyph.write locale)

def Glyph.ofChars (text : List Char) : List Glyph := text.map .char

/-- A group mark before every third character from the right, the first character excepted. The
count is the length of the text that is left. -/
def groupFrom : Nat → List Char → List Glyph
  | _, [] => []
  | count, c :: rest =>
    .char c :: (if 1 < count ∧ (count - 1) % 3 = 0 then [.groupMark] else []) ++
      groupFrom (count - 1) rest

def groupThousands (text : List Char) : List Glyph := groupFrom text.length text

def signGlyphs (negative : Bool) : List Glyph := if negative then [.char '-'] else []

def fractionGlyphs (fraction : List Char) : List Glyph :=
  if fraction.isEmpty then [] else .decimalMark :: Glyph.ofChars fraction

def numeralGlyphs (grouped : Bool) (n : Numeral) : List Glyph :=
  signGlyphs n.negative ++
    (if grouped then groupThousands n.whole else Glyph.ofChars n.whole) ++
    fractionGlyphs n.fraction

theorem writeGlyphs_append (locale : Locale) (left right : List Glyph) :
    writeGlyphs locale (left ++ right) = writeGlyphs locale left ++ writeGlyphs locale right := by
  simp [writeGlyphs]

theorem writeGlyphs_ofChars (locale : Locale) (text : List Char) :
    writeGlyphs locale (Glyph.ofChars text) = text := by
  induction text with
  | nil => rfl
  | cons c rest ih =>
    simp only [writeGlyphs, Glyph.ofChars, List.map_cons, List.flatMap_cons, Glyph.write] at ih ⊢
    rw [ih]
    rfl

end ReportColumns
