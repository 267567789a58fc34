import ReportColumns.NumberFormat.Amount
import ReportColumns.NumberFormat.Glyph
/-!
Custom numeric patterns.

A pattern is read character by character in a mode that says whether a character is live, escaped by
a backslash, or inside quotes. Live characters are placeholders, separators, percent signs and the
semicolons that part sections; all others are literal text. The reading of a character depends on the
mode alone, so a pattern can be cut and read in parts.

The first section formats positive amounts, the second negative ones and the third zero. A section
left out or empty falls back to the first.
-/

namespace ReportColumns

open Decimal

inductive ReadingMode where
  | live
  /-- Right after a live backslash. -/
  | escaped
  /-- Inside quotes that the same mark closes. -/
  | quoted (mark : Char)
  deriving DecidableEq, Repr

def isQuoteMark (c : Char) : Bool := c == '"' || c == '\x27'

def ReadingMode.next (mode : ReadingMode) (c : Char) : ReadingMode :=
  match mode with
  | .live => if c = '\\' then .escaped else if isQuoteMark c then .quoted c else .live
  | .escaped => .live
  | .quoted mark => if c = mark then .live else .quoted mark

inductive PatternToken where
  /-- A digit place that always shows a digit. -/
  | zero
  /-- A digit place that shows significant digits only. -/
  | hash
  /-- The decimal point. Only the first of a section counts. -/
  | point
  /-- Groups digits when digit places follow, and divides by 1000 right after the last one. -/
  | comma
  /-- Multiplies by 100 and shows a percent sign. -/
  | percent
  | literal (c : Char)
  /-- An opening quote. It shows nothing, but a section that holds it is not empty. -/
  | quote
  deriving DecidableEq, Repr

def PatternToken.isPlace : PatternToken → Bool
  | .zero | .hash => true
  | _ => false

def liveToken (c : Char) : List PatternToken :=
  if c = '0' then [.zero]
  else if c = '#' then [.hash]
  else if c = '.' then [.point]
  else if c = ',' then [.comma]
  else if c = '%' then [.percent]
  else if c = '\\' then []
  else if isQuoteMark c then [.quote]
  else [.literal c]

def ReadingMode.read (mode : ReadingMode) (c : Char) : List PatternToken :=
  match mode with
  | .live => liveToken c
  | .escaped => [.literal c]
  | .quoted mark => if c = mark then [] else [.literal c]

def tokensFrom : ReadingMode → List Char → List PatternToken
  | _, [] => []
  | mode, c :: rest => mode.read c ++ tokensFrom (mode.next c) rest

def ReadingMode.after (mode : ReadingMode) (text : List Char) : ReadingMode :=
  text.foldl ReadingMode.next mode

theorem tokensFrom_append (mode : ReadingMode) (left right : List Char) :
    tokensFrom mode (left ++ right) =
      tokensFrom mode left ++ tokensFrom (mode.after left) right := by
  induction left generalizing mode with
  | nil => rfl
  | cons c rest ih => simp [tokensFrom, ih, ReadingMode.after]

def sectionsFrom : ReadingMode → List Char → List (List Char)
  | _, [] => [[]]
  | mode, c :: rest =>
    if mode = .live ∧ c = ';' then [] :: sectionsFrom .live rest
    else (sectionsFrom (mode.next c) rest).modifyHead (c :: ·)

/-- The texts of the sections of a pattern. What follows the third is ignored. -/
def splitSections (pattern : List Char) : List (List Char) := (sectionsFrom .live pattern).take 3

abbrev PatternSection := List PatternToken

namespace PatternSection

def ofChars (text : List Char) : PatternSection := tokensFrom .live text

def wholeTokens (tokens : PatternSection) : PatternSection := tokens.takeWhile (· != .point)

def fractionTokens (tokens : PatternSection) : PatternSection :=
  (tokens.dropWhile (· != .point)).drop 1

def leastWhole (tokens : PatternSection) : Nat := tokens.wholeTokens.count .zero

def leastFraction (tokens : PatternSection) : Nat := tokens.fractionTokens.count .zero

def mostFraction (tokens : PatternSection) : Nat := tokens.fractionTokens.countP (·.isPlace)

def wholePlaces (tokens : PatternSection) : PatternSection :=
  (tokens.wholeTokens.reverse.dropWhile (!·.isPlace)).reverse

/-- The count of commas right after the last digit place of the integer part. -/
def scalingCommas (tokens : PatternSection) : Nat :=
  if tokens.wholePlaces.isEmpty then 0
  else ((tokens.wholeTokens.drop tokens.wholePlaces.length).takeWhile (· == .comma)).length

/-- Whether a comma stands before the last digit place of the integer part. -/
def groups (tokens : PatternSection) : Bool := tokens.wholePlaces.contains .comma

def percents (tokens : PatternSection) : Nat := tokens.count .percent

def affix (tokens : PatternSection) : List Glyph :=
  tokens.flatMap fun
    | .literal c => [.char c]
    | .percent => [.char '%']
    | _ => []

def trimFraction (least : Nat) (fraction : List Char) : List Char :=
  fraction.take least ++ ((fraction.drop least).reverse.dropWhile (· == '0')).reverse

def fitWhole (least : Nat) (whole : List Char) : List Char :=
  (whole.dropWhile (· == '0')).leftpad least '0'

def numeral (tokens : PatternSection) (amount : Amount) : Numeral :=
  let exact := amount.scaledNumeral tokens.percents tokens.scalingCommas tokens.mostFraction
  ⟨exact.negative, fitWhole tokens.leastWhole exact.whole,
    trimFraction tokens.leastFraction exact.fraction⟩

/-- A section without digit places shows its literal text only. In any other the number stands at the
first digit place, and literal text between the places follows the number. -/
def glyphs (tokens : PatternSection) (amount : Amount) : List Glyph :=
  if tokens.any (·.isPlace) then
    affix (tokens.takeWhile (!·.isPlace)) ++
      numeralGlyphs tokens.groups (tokens.numeral amount) ++
      affix (tokens.dropWhile (!·.isPlace))
  else affix tokens

end PatternSection

structure Pattern where
  sections : List PatternSection
  deriving DecidableEq, Repr

namespace Pattern

def parse (text : List Char) : Pattern := ⟨(splitSections text).map .ofChars⟩

def positive (pattern : Pattern) : PatternSection := pattern.sections.headD []

def own? (pattern : Pattern) (index : Nat) : Option PatternSection :=
  pattern.sections[index]?.filter (!·.isEmpty)

def glyphs (pattern : Pattern) (amount : Amount) : List Glyph :=
  match (if amount.isZero then pattern.own? 2 else none),
    (if amount.isNegative then pattern.own? 1 else none) with
  | some zero, _ => zero.glyphs (.integer 0)
  | none, some negative => negative.glyphs amount.abs
  | none, none => pattern.positive.glyphs amount

end Pattern

end ReportColumns
