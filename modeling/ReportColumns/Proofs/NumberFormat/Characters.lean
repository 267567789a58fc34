import ReportColumns.NumberFormat.Render
import ReportColumns.Proofs.Decimal.Numeral
/-!
The characters of numeric text. Apart from its separators it is made of the characters that numbers are
written with, of characters of the format and of those of the currency symbol.
-/

namespace ReportColumns

open Decimal

def IsNumberChar (c : Char) : Prop := c.isAlphanum = true ∨ c ∈ ['-', '+', '.', '%', '(', ')']

instance (c : Char) : Decidable (IsNumberChar c) := inferInstanceAs (Decidable (_ ∨ _))

theorem isNumberChar_of_isDigit {c : Char} (digit : c.isDigit = true) : IsNumberChar c := by
  left
  rw [Char.isAlphanum, digit, Bool.or_true]

theorem isNumberChar_zero : IsNumberChar '0' := by decide

namespace Decimal

theorem isNumberChar_digits {n : Nat} : ∀ c ∈ digits n, IsNumberChar c :=
  fun _ found => isNumberChar_of_isDigit (digits_are_digits found)

theorem isNumberChar_zeros {count : Nat} : ∀ c ∈ List.replicate count '0', IsNumberChar c := by
  intro c found
  rw [(List.mem_replicate.mp found).2]
  exact isNumberChar_zero

theorem isNumberChar_leftpad {width : Nat} {text : List Char} (numeric : ∀ c ∈ text, IsNumberChar c) :
    ∀ c ∈ text.leftpad width '0', IsNumberChar c :=
  List.forall_mem_append.mpr ⟨isNumberChar_zeros, numeric⟩

theorem isNumberChar_paddedDigits {width n : Nat} : ∀ c ∈ paddedDigits width n, IsNumberChar c :=
  isNumberChar_leftpad isNumberChar_digits

structure Numeral.Numeric (n : Numeral) : Prop where
  whole : ∀ c ∈ n.whole, IsNumberChar c
  fraction : ∀ c ∈ n.fraction, IsNumberChar c

theorem numeric_infinity (negative : Bool) : (Numeral.infinity negative).Numeric where
  whole := List.forall_mem_cons.mpr ⟨by decide, List.forall_mem_cons.mpr
    ⟨by decide, List.forall_mem_singleton.mpr (by decide)⟩⟩
  fraction := List.forall_mem_nil _

theorem numeric_notANumber : Numeral.notANumber.Numeric where
  whole := List.forall_mem_cons.mpr ⟨by decide, List.forall_mem_cons.mpr
    ⟨by decide, List.forall_mem_singleton.mpr (by decide)⟩⟩
  fraction := List.forall_mem_nil _

theorem numeric_ofInt (n : Int) (places : Nat) : (Numeral.ofInt n places).Numeric :=
  ⟨isNumberChar_digits, isNumberChar_zeros⟩

theorem numeric_ofPlaces (negative : Bool) (coefficient places : Nat) :
    (Numeral.ofPlaces negative coefficient places).Numeric := by
  refine ⟨isNumberChar_digits, ?_⟩
  unfold Numeral.ofPlaces
  dsimp only
  split
  · exact List.forall_mem_nil _
  · exact isNumberChar_paddedDigits

theorem numeric_ofScaled (negative : Bool) (coefficient : Nat) (exponent : Int) :
    (Numeral.ofScaled negative coefficient exponent).Numeric := by
  unfold Numeral.ofScaled
  split
  · refine ⟨List.forall_mem_append.mpr ⟨isNumberChar_digits, isNumberChar_zeros⟩, ?_⟩
    exact List.forall_mem_nil _
  · exact numeric_ofPlaces ..

theorem numeric_fixedNumeral (x : Float) (places : Nat) : (fixedNumeral x places).Numeric := by
  unfold fixedNumeral
  split
  · exact numeric_ofPlaces ..
  · exact numeric_infinity _
  · exact numeric_notANumber

theorem numeric_plainNumeral (x : Float) : (plainNumeral x).Numeric := by
  unfold plainNumeral
  split
  · exact numeric_ofScaled ..
  · exact numeric_infinity _
  · exact numeric_notANumber

theorem numeric_scientific_ofScaled (negative : Bool) (d : Scaled) :
    (Scientific.ofScaled negative d).numeral.Numeric where
  whole := fun c found => isNumberChar_digits c (List.mem_of_mem_take found)
  fraction := fun c found => isNumberChar_digits c (List.mem_of_mem_drop found)

theorem numeric_scientific_ofPlaces (negative : Bool) (mantissa : Nat) (exponent : Int)
    (places : Nat) : (Scientific.ofPlaces negative mantissa exponent places).numeral.Numeric := by
  unfold Scientific.ofPlaces
  split
  · exact ⟨List.forall_mem_singleton.mpr isNumberChar_zero, isNumberChar_zeros⟩
  · exact numeric_scientific_ofScaled ..

end Decimal

theorem Amount.numeric_scaledNumeral (amount : Amount) (percents thousands places : Nat) :
    (amount.scaledNumeral percents thousands places).Numeric := by
  unfold scaledNumeral
  split
  · exact numeric_ofInt ..
  · exact numeric_fixedNumeral ..

/-- Every character among some glyphs is of a kind. The marks for the separators are not asked about. -/
def ShowsOnly (kind : Char → Prop) (glyphs : List Glyph) : Prop := ∀ c, .char c ∈ glyphs → kind c

namespace ShowsOnly

variable {kind other : Char → Prop} {glyphs left right : List Glyph} {text : List Char}

theorem mono (shows : ShowsOnly kind glyphs) (wider : ∀ c, kind c → other c) :
    ShowsOnly other glyphs := fun c found => wider c (shows c found)

theorem nil : ShowsOnly kind [] := by
  intro c found
  cases found

theorem append (before : ShowsOnly kind left) (after : ShowsOnly kind right) :
    ShowsOnly kind (left ++ right) := by
  intro c found
  rcases List.mem_append.mp found with front | back
  · exact before c front
  · exact after c back

theorem ofChars (kinds : ∀ c ∈ text, kind c) : ShowsOnly kind (Glyph.ofChars text) := by
  intro c found
  obtain ⟨d, among, same⟩ := List.mem_map.mp found
  cases same
  exact kinds c among

theorem char {c : Char} (held : kind c) : ShowsOnly kind [.char c] :=
  ofChars (List.forall_mem_singleton.mpr held)

theorem sign (negative : Bool) : ShowsOnly IsNumberChar (signGlyphs negative) := by
  cases negative with
  | false => exact nil
  | true => exact char (by decide)

theorem fraction (kinds : ∀ c ∈ text, kind c) : ShowsOnly kind (fractionGlyphs text) := by
  unfold fractionGlyphs
  split
  · exact nil
  · intro c found
    rcases List.mem_cons.mp found with mark | behind
    · cases mark
    · exact ofChars kinds c behind

theorem group (kinds : ∀ c ∈ text, kind c) (count : Nat) : ShowsOnly kind (groupFrom count text) := by
  induction text generalizing count with
  | nil => exact nil
  | cons first rest ih =>
    obtain ⟨here, later⟩ := List.forall_mem_cons.mp kinds
    have mark : ShowsOnly kind (if 1 < count ∧ (count - 1) % 3 = 0 then [.groupMark] else []) := by
      split
      · intro c found
        cases List.mem_singleton.mp found
      · exact nil
    exact append (append (char here) mark) (ih later (count - 1))

theorem numeral (grouped : Bool) {n : Numeral} (numeric : n.Numeric) :
    ShowsOnly IsNumberChar (numeralGlyphs grouped n) := by
  refine append (append (sign _) ?_) (fraction numeric.fraction)
  cases grouped with
  | false => exact ofChars numeric.whole
  | true => exact group numeric.whole _

end ShowsOnly

theorem decimalGlyphs_shows (amount : Amount) (width : Nat) :
    ShowsOnly IsNumberChar (decimalGlyphs amount width) :=
  .append (.sign _) (.ofChars (isNumberChar_leftpad (amount.numeric_scaledNumeral 0 0 0).whole))

theorem exponentGlyphs_shows {mark : Char} (numeric : IsNumberChar mark) (exponent : Int)
    (width : Nat) : ShowsOnly IsNumberChar (exponentGlyphs mark exponent width) := by
  have sign : IsNumberChar (if exponent < 0 then '-' else '+') := by
    split
    · decide
    · decide
  exact .append (.char numeric) (.append (.char sign) (.ofChars isNumberChar_paddedDigits))

theorem exponentialGlyphs_shows (x : Float) (places : Nat) (lowercase : Bool) :
    ShowsOnly IsNumberChar (exponentialGlyphs x places lowercase) := by
  have mark : IsNumberChar (if lowercase then 'e' else 'E') := by
    cases lowercase with
    | false => decide
    | true => decide
  unfold exponentialGlyphs
  split
  · exact .append (.numeral _ (numeric_scientific_ofPlaces ..)) (exponentGlyphs_shows mark _ _)
  · exact .numeral _ (numeric_infinity _)
  · exact .numeral _ numeric_notANumber

theorem generalGlyphs_shows (x : Float) (precision : Option Nat) :
    ShowsOnly IsNumberChar (generalGlyphs x precision) := by
  unfold generalGlyphs
  extract_lets rounded
  by_cases zero : (rounded == 0.0) = true
  · rw [if_pos zero]
    exact .char isNumberChar_zero
  · rw [if_neg zero]
    by_cases extreme : needsExponent rounded = true
    · rw [if_pos extreme]
      split
      · exact .append (.numeral _ (numeric_scientific_ofScaled ..))
          (exponentGlyphs_shows (by decide) _ _)
      · exact .numeral _ (numeric_infinity _)
      · exact .numeral _ numeric_notANumber
    · rw [if_neg extreme]
      exact .numeral _ (numeric_plainNumeral _)

theorem currencyGlyphs_shows (currency : Currency) (amount : Amount) (places : Nat) :
    ShowsOnly (fun c => IsNumberChar c ∨ c ∈ currency.symbol.toList)
      (currencyGlyphs currency amount places) := by
  obtain ⟨symbol, position⟩ := currency
  have magnitude := (ShowsOnly.numeral true (amount.abs.numeric_scaledNumeral 0 0 places)).mono
    fun c => Or.inl (b := c ∈ symbol.toList)
  have sign : ShowsOnly (fun c => IsNumberChar c ∨ c ∈ symbol.toList)
      (Glyph.ofChars symbol.toList) := .ofChars fun _ => Or.inr
  have enclosed {glyphs : List Glyph}
      (signed : ShowsOnly (fun c => IsNumberChar c ∨ c ∈ symbol.toList) glyphs) :
      ShowsOnly (fun c => IsNumberChar c ∨ c ∈ symbol.toList)
        (if amount.roundsNegative places then [.char '('] ++ glyphs ++ [.char ')'] else glyphs) := by
    split
    · exact .append (.append (.char (Or.inl (by decide))) signed) (.char (Or.inl (by decide)))
    · exact signed
  cases position with
  | before => exact enclosed (.append sign magnitude)
  | after => exact enclosed (.append magnitude sign)

theorem StandardFormat.glyphs_show (format : StandardFormat) (currency : Currency)
    (amount : Amount) :
    ShowsOnly (fun c => IsNumberChar c ∨ c ∈ currency.symbol.toList)
      (format.glyphs currency amount) := by
  have number {glyphs : List Glyph} (shows : ShowsOnly IsNumberChar glyphs) :
      ShowsOnly (fun c => IsNumberChar c ∨ c ∈ currency.symbol.toList) glyphs :=
    shows.mono fun _ => Or.inl
  obtain ⟨specifier, precision, lowercase⟩ := format
  cases specifier with
  | number => exact number (.numeral _ (amount.numeric_scaledNumeral ..))
  | decimal => exact number (decimalGlyphs_shows _ _)
  | fixedPoint => exact number (.numeral _ (amount.numeric_scaledNumeral ..))
  | percent =>
    exact number (.append (.numeral _ (amount.numeric_scaledNumeral ..)) (.char (by decide)))
  | currency => exact currencyGlyphs_shows _ _ _
  | exponential => exact number (exponentialGlyphs_shows _ _ _)
  | general =>
    simp only [StandardFormat.glyphs]
    split
    · exact number (.numeral _ (numeric_ofInt ..))
    · exact number (.numeral _ (numeric_ofInt ..))
    · exact number (generalGlyphs_shows _ _)

theorem eq_of_literal_mem_read {mode : ReadingMode} {c d : Char}
    (found : .literal c ∈ mode.read d) : c = d := by
  cases mode with
  | live =>
    rw [ReadingMode.read, liveToken] at found
    grind
  | escaped =>
    cases List.mem_singleton.mp found
    rfl
  | quoted mark =>
    simp only [ReadingMode.read] at found
    split at found
    · cases found
    · cases List.mem_singleton.mp found
      rfl

theorem mem_of_literal_mem {mode : ReadingMode} {text : List Char} {c : Char}
    (found : .literal c ∈ tokensFrom mode text) : c ∈ text := by
  induction text generalizing mode with
  | nil => cases found
  | cons first rest ih =>
    rcases List.mem_append.mp found with here | later
    · rw [eq_of_literal_mem_read here]
      exact List.mem_cons_self
    · exact List.mem_cons_of_mem _ (ih later)

theorem mem_of_mem_section {mode : ReadingMode} {text piece : List Char} {c : Char}
    (cut : piece ∈ sectionsFrom mode text) (found : c ∈ piece) : c ∈ text := by
  induction text generalizing mode piece with
  | nil =>
    cases List.mem_singleton.mp cut
    cases found
  | cons first rest ih =>
    rw [sectionsFrom] at cut
    split at cut
    · rcases List.mem_cons.mp cut with rfl | later
      · cases found
      · exact List.mem_cons_of_mem _ (ih later found)
    · -- A character that cuts nothing goes in front of the first piece of the rest.
      cases pieces : sectionsFrom (mode.next first) rest with
      | nil =>
        rw [pieces] at cut
        cases cut
      | cons head tail =>
        rw [pieces, List.modifyHead_cons] at cut
        rcases List.mem_cons.mp cut with rfl | later
        · rcases List.mem_cons.mp found with rfl | behind
          · exact List.mem_cons_self
          · exact List.mem_cons_of_mem _ (ih (pieces ▸ List.mem_cons_self) behind)
        · exact List.mem_cons_of_mem _ (ih (pieces ▸ List.mem_cons_of_mem _ later) found)

namespace PatternSection

variable {tokens : PatternSection}

def Shown (tokens : PatternSection) (c : Char) : Prop := IsNumberChar c ∨ .literal c ∈ tokens

theorem affix_shows {part : PatternSection} (within : ∀ token ∈ part, token ∈ tokens) :
    ShowsOnly tokens.Shown (affix part) := by
  intro c found
  obtain ⟨token, among, drawn⟩ := List.mem_flatMap.mp found
  cases token with
  | literal d =>
    cases List.mem_singleton.mp drawn
    exact Or.inr (within _ among)
  | percent =>
    cases List.mem_singleton.mp drawn
    exact Or.inl (by decide)
  | zero => cases drawn
  | hash => cases drawn
  | point => cases drawn
  | comma => cases drawn
  | quote => cases drawn

theorem numeric_numeral (tokens : PatternSection) (amount : Amount) :
    (tokens.numeral amount).Numeric := by
  have exact_numeral := amount.numeric_scaledNumeral tokens.percents tokens.scalingCommas
    tokens.mostFraction
  refine ⟨isNumberChar_leftpad fun c found => ?_, List.forall_mem_append.mpr ⟨?_, ?_⟩⟩
  · exact exact_numeral.whole c ((List.dropWhile_sublist _).subset found)
  · exact fun c found => exact_numeral.fraction c (List.mem_of_mem_take found)
  · intro c found
    have kept := (List.dropWhile_sublist _).subset (List.mem_reverse.mp found)
    exact exact_numeral.fraction c (List.mem_of_mem_drop (List.mem_reverse.mp kept))

theorem glyphs_show (tokens : PatternSection) (amount : Amount) :
    ShowsOnly tokens.Shown (tokens.glyphs amount) := by
  unfold glyphs
  split
  · refine .append (.append ?_ ?_) ?_
    · exact affix_shows fun _ found => (List.takeWhile_sublist _).subset found
    · exact (ShowsOnly.numeral _ (numeric_numeral tokens amount)).mono fun _ => Or.inl
    · exact affix_shows fun _ found => (List.dropWhile_sublist _).subset found
  · exact affix_shows fun _ => id

end PatternSection

namespace Pattern

theorem shown_of_section {text : List Char} {tokens : PatternSection} {c : Char}
    (listed : tokens ∈ (parse text).sections) (shown : tokens.Shown c) :
    IsNumberChar c ∨ c ∈ text := by
  obtain ⟨piece, cut, rfl⟩ := List.mem_map.mp listed
  exact shown.imp_right fun found =>
    mem_of_mem_section (List.mem_of_mem_take cut) (mem_of_literal_mem found)

theorem glyphs_show (text : List Char) (amount : Amount) :
    ShowsOnly (fun c => IsNumberChar c ∨ c ∈ text) ((parse text).glyphs amount) := by
  have own {index : Nat} {tokens : PatternSection} (chosen : (parse text).own? index = some tokens)
      (shown : Amount) : ShowsOnly (fun c => IsNumberChar c ∨ c ∈ text) (tokens.glyphs shown) := by
    obtain ⟨listed, -⟩ := Option.filter_eq_some_iff.mp chosen
    exact (tokens.glyphs_show shown).mono fun c =>
      shown_of_section (List.mem_of_getElem? listed)
  have positive : ShowsOnly (fun c => IsNumberChar c ∨ c ∈ text)
      ((parse text).positive.glyphs amount) := by
    refine ((parse text).positive.glyphs_show amount).mono fun c shown => ?_
    unfold Pattern.positive at shown
    cases sections : (parse text).sections with
    | nil =>
      rw [sections] at shown
      rcases shown with number | literal
      · exact Or.inl number
      · cases literal
    | cons first rest =>
      rw [sections] at shown
      exact shown_of_section (by rw [sections]; exact List.mem_cons_self) shown
  -- The amount is shown by the section for zero, by the one for negative amounts, or by the first.
  unfold glyphs
  split
  · rename_i chosen
    split at chosen
    · exact own chosen _
    · cases chosen
  · rename_i chosen
    split at chosen
    · exact own chosen _
    · cases chosen
  · exact positive

end Pattern

theorem NumberFormat.parse_cases {format : String} {parsed : NumberFormat}
    (done : NumberFormat.parse format = .ok parsed) :
    (∃ letterFormat, parsed = .standard letterFormat) ∨
      parsed = .custom (Pattern.parse format.toList) := by
  unfold NumberFormat.parse at done
  split at done
  · cases done
    exact Or.inl ⟨_, rfl⟩
  · rename_i letter rest spelled
    split at done
    · split at done
      · cases done
      · split at done
        · cases done
        · cases done
          exact Or.inl ⟨_, rfl⟩
    · cases done
      rw [spelled]
      exact Or.inr rfl

theorem amountGlyphs_show {format : String} {currency : Currency} {amount : Amount}
    {glyphs : List Glyph} (drawn : amountGlyphs format currency amount = .ok glyphs) :
    ShowsOnly (fun c => IsNumberChar c ∨ c ∈ format.toList ∨ c ∈ currency.symbol.toList) glyphs := by
  cases read : NumberFormat.parse format with
  | error cause =>
    rw [amountGlyphs, read] at drawn
    cases drawn
  | ok parsed =>
    rw [amountGlyphs_of_parse read] at drawn
    split at drawn
    · cases drawn
    · cases drawn
      rcases NumberFormat.parse_cases read with ⟨letterFormat, rfl⟩ | rfl
      · exact (letterFormat.glyphs_show currency amount).mono fun _ => Or.imp_right Or.inr
      · exact (Pattern.glyphs_show format.toList amount).mono fun _ => Or.imp_right Or.inl

end ReportColumns
