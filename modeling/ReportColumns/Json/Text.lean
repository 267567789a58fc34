import ReportColumns.Json.Basic
import ReportColumns.Text.Hexadecimal
/-!
Compact JSON text, as the library documents it: no blanks, and members in the order of their fields.
Strings escape the quote, the backslash and control characters, and nothing else. The exponent of a number
always has a sign.
-/

namespace ReportColumns

open Decimal Text

def escapeChar (c : Char) : List Char :=
  if c = '"' then ['\\', '"']
  else if c = '\\' then ['\\', '\\']
  else if c = '\n' then ['\\', 'n']
  else if c = '\r' then ['\\', 'r']
  else if c = '\t' then ['\\', 't']
  else if c = '\x08' then ['\\', 'b']
  else if c = '\x0c' then ['\\', 'f']
  else if c.toNat < 32 then
    ['\\', 'u', '0', '0', hexDigit (c.toNat / 16), hexDigit (c.toNat % 16)]
  else [c]

def quoteChars (text : List Char) : List Char := '"' :: text.flatMap escapeChar ++ ['"']

def JsonNumber.chars (n : JsonNumber) : List Char :=
  let fraction :=
    match n.fraction with
    | some ds => '.' :: ds
    | none => []
  let exponent :=
    match n.exponent with
    | some e => 'e' :: (if e < 0 then '-' else '+') :: digits e.natAbs
    | none => []
  (if n.negative then ['-'] else []) ++ n.whole ++ fraction ++ exponent

namespace Json

def stringChars (text : Option String) : List Char := quoteChars (text.getD "").toList

mutual

def chars : Json → List Char
  | .null => ['n', 'u', 'l', 'l']
  | .bool true => ['t', 'r', 'u', 'e']
  | .bool false => ['f', 'a', 'l', 's', 'e']
  | .number n => n.chars
  | .string text => stringChars text
  | .array [] => ['[', ']']
  | .array (item :: items) => '[' :: item.chars ++ itemsChars items
  | .object [] => ['\x7b', '\x7d']
  | .object ((name, value) :: members) =>
    '\x7b' :: stringChars name ++ ':' :: value.chars ++ membersChars members

def itemsChars : List Json → List Char
  | [] => [']']
  | item :: items => ',' :: item.chars ++ itemsChars items

def membersChars : List (Option String × Json) → List Char
  | [] => ['\x7d']
  | (name, value) :: members =>
    ',' :: stringChars name ++ ':' :: value.chars ++ membersChars members

end

def text (json : Json) : String := String.ofList json.chars

end Json

end ReportColumns
