import ReportColumns.Json.Basic
import ReportColumns.Text.Hexadecimal
/-!
Reading JSON text. Every step takes the text that is left and gives back what it read with the rest.
As the library documents, blanks may stand around every value and every mark, control characters must be
escaped in strings, a number has no leading zeros, and nothing but blanks may follow the value.
-/

namespace ReportColumns

open Decimal Text

namespace Json

def isJsonBlank (c : Char) : Bool := c == ' ' || c == '\n' || c == '\r' || c == '\t'

def skipBlanks (text : List Char) : List Char := text.dropWhile isJsonBlank

def readUnit? : List Char → Option (Nat × List Char)
  | a :: b :: c :: d :: rest => do
    let high := (← hexValue? a) * 16 + (← hexValue? b)
    let low := (← hexValue? c) * 16 + (← hexValue? d)
    return (high * 256 + low, rest)
  | _ => none

def isHighSurrogate (unit : Nat) : Bool := 0xD800 ≤ unit && unit < 0xDC00

def isLowSurrogate (unit : Nat) : Bool := 0xDC00 ≤ unit && unit < 0xE000

def shortEscape? (c : Char) : Option Char :=
  if c = '"' then some '"'
  else if c = '\\' then some '\\'
  else if c = '/' then some '/'
  else if c = 'b' then some '\x08'
  else if c = 'f' then some '\x0c'
  else if c = 'n' then some '\n'
  else if c = 'r' then some '\r'
  else if c = 't' then some '\t'
  else none

inductive StringPiece where
  | char (c : Char)
  | unpaired
  deriving DecidableEq, Repr

/-- Reads an escape with hexadecimal digits, after its letter. A high surrogate takes the low one of a
second escape with it when that follows. -/
def readHexEscape? (text : List Char) : Option (StringPiece × List Char) := do
  let (unit, rest) ← readUnit? text
  if isHighSurrogate unit then
    match rest with
    | '\\' :: 'u' :: more =>
      let (second, rest') ← readUnit? more
      if isLowSurrogate second then
        let code := 0x10000 + (unit - 0xD800) * 1024 + (second - 0xDC00)
        return (StringPiece.char (Char.ofNat code), rest')
      else return (StringPiece.unpaired, rest)
    | _ => return (StringPiece.unpaired, rest)
  else if isLowSurrogate unit then return (StringPiece.unpaired, rest)
  else return (StringPiece.char (Char.ofNat unit), rest)

def readPieces? : Nat → List Char → Option (List StringPiece × List Char)
  | 0, _ => none
  | _ + 1, [] => none
  | fuel + 1, c :: rest =>
    if c = '"' then some ([], rest)
    else if c = '\\' then
      match rest with
      | 'u' :: more => do
        let (piece, after) ← readHexEscape? more
        let (pieces, final) ← readPieces? fuel after
        return (piece :: pieces, final)
      | letter :: more => do
        let escaped ← shortEscape? letter
        let (pieces, final) ← readPieces? fuel more
        return (.char escaped :: pieces, final)
      | [] => none
    else if c.toNat < 32 then none
    else do
      let (pieces, final) ← readPieces? fuel rest
      return (.char c :: pieces, final)

def StringPiece.char? : StringPiece → Option Char
  | .char c => some c
  | .unpaired => none

def joinPieces (pieces : List StringPiece) : Option String :=
  (pieces.mapM StringPiece.char?).map String.ofList

def readString? (text : List Char) : Option (Option String × List Char) :=
  (readPieces? (text.length + 1) text).map fun found => (joinPieces found.1, found.2)

def readSomeDigits? (text : List Char) : Option (List Char × List Char) :=
  let ds := text.takeWhile Char.isDigit
  if ds.isEmpty then none else some (ds, text.dropWhile Char.isDigit)

def readWhole? (text : List Char) : Option (List Char × List Char) :=
  match text with
  | '0' :: rest => if rest.head?.any Char.isDigit then none else some (['0'], rest)
  | _ => readSomeDigits? text

def readFractionDigits? (text : List Char) : Option (Option (List Char) × List Char) :=
  match text with
  | '.' :: rest => (readSomeDigits? rest).map fun found => (some found.1, found.2)
  | _ => some (none, text)

def readExponent? (text : List Char) : Option (Option Int × List Char) :=
  match text with
  | c :: rest =>
    if c = 'e' ∨ c = 'E' then
      match rest with
      | '-' :: more =>
        (readSomeDigits? more).map fun found => (some (-(ofDigits found.1 : Int)), found.2)
      | '+' :: more => (readSomeDigits? more).map fun found => (some (ofDigits found.1 : Int), found.2)
      | _ => (readSomeDigits? rest).map fun found => (some (ofDigits found.1 : Int), found.2)
    else some (none, text)
  | [] => some (none, text)

def readNumber? (negative : Bool) (text : List Char) : Option (JsonNumber × List Char) := do
  let (whole, rest) ← readWhole? text
  let (fraction, rest) ← readFractionDigits? rest
  let (exponent, rest) ← readExponent? rest
  return (⟨negative, whole, fraction, exponent⟩, rest)

def readWord? (word : String) (value : Json) (text : List Char) : Option (Json × List Char) :=
  if word.toList.isPrefixOf text then some (value, text.drop word.length) else none

mutual

/-- Reads one value after any blanks. The fuel bounds the count of nested steps. -/
def readValue? : Nat → List Char → Option (Json × List Char)
  | 0, _ => none
  | fuel + 1, text =>
    match skipBlanks text with
    | '"' :: rest => (readString? rest).map fun found => (.string found.1, found.2)
    | '[' :: rest =>
      match skipBlanks rest with
      | ']' :: after => some (.array [], after)
      | _ => (readItems? fuel rest).map fun found => (.array found.1, found.2)
    | '\x7b' :: rest =>
      match skipBlanks rest with
      | '\x7d' :: after => some (.object [], after)
      | _ => (readMembers? fuel rest).map fun found => (.object found.1, found.2)
    | '-' :: rest => (readNumber? true rest).map fun found => (.number found.1, found.2)
    | 'n' :: rest => readWord? "ull" .null rest
    | 't' :: rest => readWord? "rue" (.bool true) rest
    | 'f' :: rest => readWord? "alse" (.bool false) rest
    | rest => (readNumber? false rest).map fun found => (.number found.1, found.2)

def readItems? : Nat → List Char → Option (List Json × List Char)
  | 0, _ => none
  | fuel + 1, text => do
    let (item, rest) ← readValue? fuel text
    match skipBlanks rest with
    | ',' :: more =>
      let (items, after) ← readItems? fuel more
      return (item :: items, after)
    | ']' :: after => return ([item], after)
    | _ => none

def readMembers? : Nat → List Char → Option (List (Option String × Json) × List Char)
  | 0, _ => none
  | fuel + 1, text =>
    match skipBlanks text with
    | '"' :: named => do
      let (name, rest) ← readString? named
      match skipBlanks rest with
      | ':' :: valued =>
        let (value, rest) ← readValue? fuel valued
        match skipBlanks rest with
        | ',' :: more =>
          let (members, after) ← readMembers? fuel more
          return ((name, value) :: members, after)
        | '\x7d' :: after => return ([(name, value)], after)
        | _ => none
      | _ => none
    | _ => none

end

def ofChars? (text : List Char) : Option Json := do
  let (json, rest) ← readValue? (2 * text.length + 2) text
  if (skipBlanks rest).isEmpty then some json else none

def ofText? (text : String) : Option Json := ofChars? text.toList

end Json

end ReportColumns
