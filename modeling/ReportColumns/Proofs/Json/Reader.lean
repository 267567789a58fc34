import Mathlib.Tactic.SplitIfs
import ReportColumns.Json.Reader
import ReportColumns.Json.Text
/-!
JSON text reads back as the value it was written for.

The text of a value never depends on what follows it, so each part is read back in front of any rest.
The reader gets fuel for the whole text and spends one unit for every step inward or onward, while each
of these steps leaves at least one character behind.
-/

namespace ReportColumns

open Text

theorem hexValue?_hexDigit : ∀ n < 16, hexValue? (hexDigit n) = some n := by decide

namespace Json

theorem readHexEscape?_byte (code : Nat) (byte : code < 256) (rest : List Char) :
    readHexEscape? ('0' :: '0' :: hexDigit (code / 16) :: hexDigit (code % 16) :: rest) =
      some (.char (Char.ofNat code), rest) := by
  have zero : hexValue? '0' = some 0 := by decide
  have high : hexValue? (hexDigit (code / 16)) = some (code / 16) := hexValue?_hexDigit _ (by omega)
  have low : hexValue? (hexDigit (code % 16)) = some (code % 16) := hexValue?_hexDigit _ (by omega)
  have joined : (0 * 16 + 0) * 256 + (code / 16 * 16 + code % 16) = code := by omega
  have unit : readUnit? ('0' :: '0' :: hexDigit (code / 16) :: hexDigit (code % 16) :: rest) =
      some (code, rest) := by
    simp only [readUnit?, zero, high, low, Option.bind_eq_bind, Option.bind_some, joined]
    rfl
  have not_high : isHighSurrogate code = false := by
    simp only [isHighSurrogate, Bool.and_eq_false_iff, decide_eq_false_iff_not]
    omega
  have not_low : isLowSurrogate code = false := by
    simp only [isLowSurrogate, Bool.and_eq_false_iff, decide_eq_false_iff_not]
    omega
  simp [readHexEscape?, unit, not_high, not_low]

theorem readPieces?_escapeChar (fuel : Nat) (c : Char) (rest : List Char) :
    readPieces? (fuel + 1) (escapeChar c ++ rest) =
      (readPieces? fuel rest).map fun found => (.char c :: found.1, found.2) := by
  -- A letter other than `u` escapes one character.
  have short {letter : Char} (other : letter ≠ 'u') (means : shortEscape? letter = some c) :
      readPieces? (fuel + 1) ('\\' :: letter :: rest) =
        (readPieces? fuel rest).map fun found => (.char c :: found.1, found.2) := by
    cases tail : readPieces? fuel rest <;> simp [readPieces?, means, tail]
  unfold escapeChar
  split_ifs with quote backslash newline carriage tab backspace feed control
  · exact short (by decide) (by rw [quote]; rfl)
  · exact short (by decide) (by rw [backslash]; rfl)
  · exact short (by decide) (by rw [newline]; rfl)
  · exact short (by decide) (by rw [carriage]; rfl)
  · exact short (by decide) (by rw [tab]; rfl)
  · exact short (by decide) (by rw [backspace]; rfl)
  · exact short (by decide) (by rw [feed]; rfl)
  · have escape := readHexEscape?_byte c.toNat (by omega) rest
    rw [Char.ofNat_toNat] at escape
    cases tail : readPieces? fuel rest <;> simp [readPieces?, escape, tail]
  · cases tail : readPieces? fuel rest <;> simp [readPieces?, quote, backslash, control, tail]

theorem readPieces?_text {fuel : Nat} {text : List Char} (enough : text.length < fuel)
    (rest : List Char) :
    readPieces? fuel (text.flatMap escapeChar ++ '"' :: rest) = some (text.map .char, rest) := by
  induction text generalizing fuel with
  | nil =>
    obtain ⟨less, rfl⟩ : ∃ less, fuel = less + 1 := ⟨fuel - 1, by omega⟩
    simp [readPieces?]
  | cons c others ih =>
    rw [List.length_cons] at enough
    obtain ⟨less, rfl⟩ : ∃ less, fuel = less + 1 := ⟨fuel - 1, by omega⟩
    rw [List.flatMap_cons, List.append_assoc, readPieces?_escapeChar, ih (by omega)]
    rfl

theorem length_escapeChar_pos (c : Char) : 0 < (escapeChar c).length := by
  unfold escapeChar
  split_ifs <;> simp

theorem length_le_escaped (text : List Char) : text.length ≤ (text.flatMap escapeChar).length := by
  induction text with
  | nil => simp
  | cons c others ih =>
    have escaped := length_escapeChar_pos c
    rw [List.flatMap_cons, List.length_append, List.length_cons]
    omega

theorem joinPieces_text (text : List Char) :
    joinPieces (text.map .char) = some (String.ofList text) := by
  have joined : (text.map StringPiece.char).mapM StringPiece.char? = some text := by
    induction text with
    | nil => rfl
    | cons c others ih => simp [ih, StringPiece.char?]
  rw [joinPieces, joined]
  rfl

/-- Everything behind the opening quote reads back, whatever characters the text holds. -/
theorem readString?_escaped (text : String) (rest : List Char) :
    readString? (text.toList.flatMap escapeChar ++ '"' :: rest) = some (some text, rest) := by
  have enough : text.toList.length <
      (text.toList.flatMap escapeChar ++ '"' :: rest).length + 1 := by
    have := length_le_escaped text.toList
    rw [List.length_append]
    omega
  rw [readString?, readPieces?_text enough, Option.map_some, joinPieces_text, String.ofList_toList]

inductive NumberFree : Json → Prop where
  | null : NumberFree .null
  | bool (b : Bool) : NumberFree (.bool b)
  | string (text : String) : NumberFree (.ofString text)
  | array {items : List Json} (all : ∀ item ∈ items, NumberFree item) : NumberFree (.array items)
  | object {members : List (String × Json)} (all : ∀ member ∈ members, NumberFree member.2) :
      NumberFree (.ofMembers members)

def ReadsBack (json : Json) : Prop :=
  ∀ fuel rest, json.chars.length ≤ fuel → readValue? (fuel + 1) (json.chars ++ rest) = some (json, rest)

variable {json : Json} {items : List Json} {members : List (String × Json)}

theorem NumberFree.chars_eq_cons (free : json.NumberFree) :
    ∃ first others, json.chars = first :: others ∧ isJsonBlank first = false ∧ first ≠ ']' := by
  cases free with
  | null => exact ⟨_, _, rfl, by decide, by decide⟩
  | bool b => cases b <;> exact ⟨_, _, rfl, by decide, by decide⟩
  | string text => exact ⟨_, _, rfl, by decide, by decide⟩
  | @array items all => cases items <;> exact ⟨_, _, rfl, by decide, by decide⟩
  | @object members all => cases members <;> exact ⟨_, _, rfl, by decide, by decide⟩

theorem skipBlanks_of_solid {c : Char} (solid : isJsonBlank c = false) (rest : List Char) :
    skipBlanks (c :: rest) = c :: rest := by
  simp [skipBlanks, solid]

theorem readItems?_chars {fuel : Nat} {item : Json} (first : item.ReadsBack)
    (all : ∀ item ∈ items, item.ReadsBack)
    (enough : item.chars.length + (itemsChars items).length < fuel) (rest : List Char) :
    readItems? fuel (item.chars ++ (itemsChars items ++ rest)) = some (item :: items, rest) := by
  -- The fuel is for the text that is left, so the item in hand takes part in the induction.
  induction items generalizing item fuel with
  | nil =>
    simp only [itemsChars, List.length_singleton] at enough
    obtain ⟨less, rfl⟩ : ∃ less, fuel = less + 2 := ⟨fuel - 2, by omega⟩
    rw [readItems?, first less _ (by omega)]
    rfl
  | cons next others ih =>
    simp only [itemsChars, List.cons_append, List.length_cons, List.length_append] at enough
    obtain ⟨less, rfl⟩ : ∃ less, fuel = less + 2 := ⟨fuel - 2, by omega⟩
    have tail : readItems? (less + 1) (next.chars ++ (itemsChars others ++ rest)) =
        some (next :: others, rest) := by
      apply ih (all next List.mem_cons_self)
      · intro item listed
        exact all item (List.mem_cons_of_mem next listed)
      · omega
    rw [readItems?, first less _ (by omega)]
    simp [itemsChars, skipBlanks, isJsonBlank, tail]

def namedMembers (members : List (String × Json)) : List (Option String × Json) :=
  members.map fun member => (some member.1, member.2)

theorem namedMembers_cons (member : String × Json) (members : List (String × Json)) :
    namedMembers (member :: members) = (some member.1, member.2) :: namedMembers members := rfl

theorem stringChars_append (name : String) (rest : List Char) :
    stringChars (some name) ++ rest =
      '"' :: (name.toList.flatMap escapeChar ++ '"' :: rest) := by
  simp [stringChars, quoteChars]

theorem readMembers?_chars {fuel : Nat} {name : String} {value : Json} (first : value.ReadsBack)
    (all : ∀ member ∈ members, member.2.ReadsBack)
    (enough : value.chars.length + (membersChars (namedMembers members)).length < fuel)
    (rest : List Char) :
    readMembers? fuel (stringChars (some name) ++
        ':' :: (value.chars ++ (membersChars (namedMembers members) ++ rest))) =
      some ((some name, value) :: namedMembers members, rest) := by
  induction members generalizing name value fuel with
  | nil =>
    simp only [namedMembers, List.map_nil, membersChars, List.length_singleton] at enough
    obtain ⟨less, rfl⟩ : ∃ less, fuel = less + 2 := ⟨fuel - 2, by omega⟩
    rw [stringChars_append, readMembers?]
    simp [skipBlanks, isJsonBlank, readString?_escaped, first less _ (by omega), namedMembers,
      membersChars]
  | cons next others ih =>
    simp only [namedMembers_cons, membersChars, List.cons_append, List.length_cons,
      List.length_append] at enough
    obtain ⟨less, rfl⟩ : ∃ less, fuel = less + 2 := ⟨fuel - 2, by omega⟩
    have tail : readMembers? (less + 1) (stringChars (some next.1) ++
          ':' :: (next.2.chars ++ (membersChars (namedMembers others) ++ rest))) =
        some ((some next.1, next.2) :: namedMembers others, rest) := by
      apply ih (all next List.mem_cons_self)
      · intro member listed
        exact all member (List.mem_cons_of_mem next listed)
      · omega
    rw [stringChars_append, readMembers?]
    simp [skipBlanks, isJsonBlank, readString?_escaped, first less _ (by omega), namedMembers_cons,
      membersChars, tail]

theorem readsBack_array (free : ∀ item ∈ items, item.NumberFree)
    (all : ∀ item ∈ items, item.ReadsBack) : (array items).ReadsBack := by
  intro fuel rest enough
  cases items with
  | nil => rfl
  | cons item others =>
    simp only [chars, List.cons_append, List.length_cons, List.length_append] at enough
    have read : readItems? fuel (item.chars ++ (itemsChars others ++ rest)) =
        some (item :: others, rest) := by
      apply readItems?_chars (all item List.mem_cons_self)
      · intro next listed
        exact all next (List.mem_cons_of_mem item listed)
      · omega
    -- The first item must not be taken for the end of an empty array.
    obtain ⟨first, behind, begins, solid, opens⟩ := (free item List.mem_cons_self).chars_eq_cons
    have bracket : skipBlanks ('[' :: (first :: (behind ++ (itemsChars others ++ rest)))) =
        '[' :: first :: (behind ++ (itemsChars others ++ rest)) := rfl
    simp only [chars, begins, List.cons_append, List.append_assoc] at read ⊢
    simp only [readValue?, bracket, skipBlanks_of_solid solid, read]
    simp [opens]

theorem readsBack_object (all : ∀ member ∈ members, member.2.ReadsBack) :
    (ofMembers members).ReadsBack := by
  intro fuel rest enough
  cases members with
  | nil => rfl
  | cons member others =>
    have text : (ofMembers (member :: others)).chars =
        '\x7b' :: (stringChars (some member.1) ++
          ':' :: (member.2.chars ++ membersChars (namedMembers others))) := by
      simp [ofMembers, chars, namedMembers]
    rw [text] at enough ⊢
    simp only [List.length_cons, List.length_append] at enough
    have read : readMembers? fuel (stringChars (some member.1) ++
          ':' :: (member.2.chars ++ (membersChars (namedMembers others) ++ rest))) =
        some ((some member.1, member.2) :: namedMembers others, rest) := by
      apply readMembers?_chars (all member List.mem_cons_self)
      · intro next listed
        exact all next (List.mem_cons_of_mem member listed)
      · omega
    have brace (behind : List Char) : skipBlanks ('\x7b' :: behind) = '\x7b' :: behind := rfl
    have quote (behind : List Char) : skipBlanks ('"' :: behind) = '"' :: behind := rfl
    simp only [List.cons_append, List.append_assoc, stringChars_append] at read ⊢
    simp only [readValue?, brace, quote, read]
    rfl

theorem NumberFree.readsBack (free : json.NumberFree) : json.ReadsBack := by
  induction free with
  | null =>
    intro fuel rest enough
    rfl
  | bool b =>
    intro fuel rest enough
    cases b <;> rfl
  | string text =>
    intro fuel rest enough
    have read := readString?_escaped text rest
    simp [ofString, chars, stringChars, quoteChars, readValue?, skipBlanks, isJsonBlank, read]
  | array all ih => exact readsBack_array all ih
  | object all ih => exact readsBack_object ih

theorem ofText?_text (free : json.NumberFree) : ofText? json.text = some json := by
  have fuel : 2 * json.chars.length + 2 = 2 * json.chars.length + 1 + 1 := rfl
  have read := free.readsBack (2 * json.chars.length + 1) [] (by omega)
  rw [List.append_nil] at read
  rw [ofText?, text, String.toList_ofList, ofChars?, fuel, read]
  rfl

end Json

end ReportColumns
