import Mathlib.Data.List.TakeWhile
import ReportColumns.Locale.Preset
import ReportColumns.Proofs.NumberFormat.Plain
/-!
Text that a numeric pattern shows as it is: each character of it behind a backslash, or all of it between
two quotes.

Such text is read as literal tokens and opening quotes alone, and no semicolon of it parts sections. In
front of a section or behind it, it shows itself. No count of places, percent signs or commas that the
number depends on takes notice.
-/

namespace ReportColumns

def escapedText (text : List Char) : List Char := text.flatMap fun c => ['\\', c]

def quotedText (mark : Char) (text : List Char) : List Char := mark :: text ++ [mark]

/-- A piece of a pattern, made of escaped characters and of quotations with both quotes, and the text
that it spells. -/
inductive Spells : List Char → List Char → Prop where
  | nil : Spells [] []
  | escape (c : Char) {piece text : List Char} (tail : Spells piece text) :
      Spells ('\\' :: c :: piece) (c :: text)
  | quotation {mark : Char} {inside piece text : List Char} (opens : isQuoteMark mark = true)
      (inner : mark ∉ inside) (tail : Spells piece text) :
      Spells (mark :: inside ++ mark :: piece) (inside ++ text)

theorem escapedText_spells (text : List Char) : Spells (escapedText text) text := by
  induction text with
  | nil => exact .nil
  | cons c rest ih => exact .escape c ih

theorem quotedText_spells {mark : Char} {text : List Char} (opens : isQuoteMark mark = true)
    (inner : mark ∉ text) : Spells (quotedText mark text) text := by
  have piece := Spells.quotation opens inner .nil
  rwa [List.append_nil] at piece

section Cutting

variable {piece text : List Char} {mark : Char}

theorem uncut_inside {inside : List Char} (inner : mark ∉ inside) :
    sectionsFrom (.quoted mark) inside = [inside] := by
  induction inside with
  | nil => rfl
  | cons c rest ih =>
    obtain ⟨other, behind⟩ := List.ne_and_not_mem_of_not_mem_cons inner
    refine uncut_cons (fun live => nomatch live.1) ?_
    rw [ReadingMode.next, if_neg (Ne.symm other)]
    exact ih behind

theorem Spells.closed (spells : Spells piece text) : Closed piece := by
  induction spells with
  | nil => exact .nil
  | escape c tail ih => exact .escape c ih
  | quotation opens inner tail ih => exact .quotation opens inner ih

theorem Spells.uncut (spells : Spells piece text) : sectionsFrom .live piece = [piece] := by
  induction spells with
  | nil => rfl
  | escape c tail ih =>
    refine uncut_cons (fun semicolon => absurd semicolon.2 (by decide)) ?_
    exact uncut_cons (fun live => nomatch live.1) ih
  | @quotation mark inside piece text opens inner tail ih =>
    have bare : mark ≠ ';' := by
      rintro rfl
      exact absurd opens (by decide)
    refine uncut_cons (fun semicolon => bare semicolon.2) ?_
    rw [ReadingMode.next_quote opens]
    refine uncut_append (uncut_inside inner) ?_
    rw [ReadingMode.after_inside inner]
    refine uncut_cons (fun live => nomatch live.1) ?_
    rw [ReadingMode.next, if_pos rfl]
    exact ih

end Cutting

def PatternToken.isText : PatternToken → Bool
  | .literal _ | .quote => true
  | _ => false

theorem read_quote {mark : Char} (opens : isQuoteMark mark = true) :
    ReadingMode.live.read mark = [.quote] := by
  have marks : mark = '"' ∨ mark = '\x27' := by simpa [isQuoteMark] using opens
  rcases marks with rfl | rfl <;> rfl

theorem quote_not_letter {mark : Char} (opens : isQuoteMark mark = true) : mark.isAlpha = false := by
  have marks : mark = '"' ∨ mark = '\x27' := by simpa [isQuoteMark] using opens
  rcases marks with rfl | rfl <;> rfl

theorem tokensFrom_inside {mark : Char} {inside : List Char} (inner : mark ∉ inside) :
    tokensFrom (.quoted mark) inside = inside.map .literal := by
  induction inside with
  | nil => rfl
  | cons c rest ih =>
    obtain ⟨other, behind⟩ := List.ne_and_not_mem_of_not_mem_cons inner
    have read : (ReadingMode.quoted mark).read c = [.literal c] := if_neg (Ne.symm other)
    have next : (ReadingMode.quoted mark).next c = .quoted mark := if_neg (Ne.symm other)
    rw [tokensFrom, read, next, ih behind]
    rfl

namespace PatternSection

def IsText (tokens : PatternSection) : Prop := ∀ token ∈ tokens, token.isText = true

theorem affix_append (left right : PatternSection) :
    affix (left ++ right) = affix left ++ affix right := List.flatMap_append

theorem affix_literals (text : List Char) : affix (text.map .literal) = Glyph.ofChars text := by
  induction text with
  | nil => rfl
  | cons c rest ih =>
    rw [List.map_cons, affix, List.flatMap_cons, ← affix, ih]
    rfl

theorem ofChars_quotation {mark : Char} {inside piece : List Char} (opens : isQuoteMark mark = true)
    (inner : mark ∉ inside) :
    ofChars (mark :: inside ++ mark :: piece) =
      .quote :: (inside.map .literal ++ ofChars piece) := by
  have closes : (ReadingMode.quoted mark).read mark = [] := if_pos rfl
  have leaves : (ReadingMode.quoted mark).next mark = .live := if_pos rfl
  unfold ofChars
  rw [List.cons_append, tokensFrom, read_quote opens, ReadingMode.next_quote opens,
    tokensFrom_append, tokensFrom_inside inner, ReadingMode.after_inside inner, tokensFrom, closes,
    leaves]
  rfl

theorem ofChars_spelled {piece text : List Char} (spells : Spells piece text) :
    IsText (ofChars piece) ∧ affix (ofChars piece) = Glyph.ofChars text := by
  induction spells with
  | nil => exact ⟨List.forall_mem_nil _, rfl⟩
  | @escape c piece text tail ih =>
    have read : ofChars ('\\' :: c :: piece) = .literal c :: ofChars piece := rfl
    rw [read]
    refine ⟨List.forall_mem_cons.mpr ⟨rfl, ih.1⟩, ?_⟩
    rw [affix, List.flatMap_cons, ← affix, ih.2]
    rfl
  | @quotation mark inside piece text opens inner tail ih =>
    rw [ofChars_quotation opens inner]
    refine ⟨List.forall_mem_cons.mpr ⟨rfl, List.forall_mem_append.mpr ⟨?_, ih.1⟩⟩, ?_⟩
    · intro token found
      obtain ⟨c, -, rfl⟩ := List.mem_map.mp found
      rfl
    · rw [affix, List.flatMap_cons, ← affix, affix_append, affix_literals, ih.2]
      simp [Glyph.ofChars]

section Between

variable {front back : PatternSection}

theorem IsText.countP {holds : PatternToken → Bool} (text : back.IsText)
    (counted : ∀ token, holds token = true → token.isText = false) : back.countP holds = 0 := by
  rw [List.countP_eq_zero]
  intro token found held
  have shown := text token found
  rw [counted token held] at shown
  cases shown

theorem not_text_of_isPlace (token : PatternToken) (place : token.isPlace = true) :
    token.isText = false := by
  cases token with
  | zero | hash => rfl
  | _ => cases place

theorem IsText.placeless (text : back.IsText) : ∀ token ∈ back, token.isPlace = false := by
  intro token found
  have shown := text token found
  cases place : token.isPlace with
  | false => rfl
  | true =>
    rw [not_text_of_isPlace token place] at shown
    cases shown

theorem IsText.ne_point (text : back.IsText) : ∀ token ∈ back, (token != .point) = true := by
  intro token found
  have shown := text token found
  cases token with
  | point => cases shown
  | _ => rfl

theorem takeWhile_comma_append (rest : PatternSection) (text : back.IsText) :
    (rest ++ back).takeWhile (· == .comma) = rest.takeWhile (· == .comma) := by
  induction rest with
  | nil =>
    cases back with
    | nil => rfl
    | cons token behind =>
      have shown := text token List.mem_cons_self
      cases token with
      | comma => cases shown
      | _ => rfl
  | cons token behind ih =>
    rw [List.cons_append, List.takeWhile_cons, List.takeWhile_cons, ih]

variable (tokens : PatternSection) (before : front.IsText) (after : back.IsText)

include before after

theorem wholeTokens_between : ∃ extra : PatternSection, extra.IsText ∧
    wholeTokens (front ++ (tokens ++ back)) = front ++ (tokens.wholeTokens ++ extra) := by
  unfold wholeTokens
  rw [List.takeWhile_append_of_pos before.ne_point, List.takeWhile_append]
  split
  · rename_i pointless
    refine ⟨back, after, ?_⟩
    have behind : back.takeWhile (· != .point) = back :=
      List.takeWhile_eq_self_iff.mpr after.ne_point
    have whole : tokens.takeWhile (· != .point) = tokens :=
      (List.takeWhile_prefix _).eq_of_length pointless
    rw [behind, whole]
  · exact ⟨[], List.forall_mem_nil _, by rw [List.append_nil]⟩

theorem fractionTokens_between : ∃ extra : PatternSection, extra.IsText ∧
    fractionTokens (front ++ (tokens ++ back)) = tokens.fractionTokens ++ extra := by
  unfold fractionTokens
  rw [List.dropWhile_append_of_pos before.ne_point, List.dropWhile_append]
  split
  · rename_i pointless
    refine ⟨[], List.forall_mem_nil _, ?_⟩
    have behind : back.dropWhile (· != .point) = [] :=
      List.dropWhile_eq_nil_iff.mpr after.ne_point
    rw [behind, List.isEmpty_iff.mp pointless]
    rfl
  · rename_i pointed
    refine ⟨back, after, ?_⟩
    rw [List.drop_append_of_le_length]
    exact List.length_pos_iff.mpr fun none => pointed (List.isEmpty_iff.mpr none)

theorem scalingCommas_between :
    scalingCommas (front ++ (tokens ++ back)) = tokens.scalingCommas ∧
      groups (front ++ (tokens ++ back)) = tokens.groups := by
  obtain ⟨extra, text, whole⟩ := wholeTokens_between tokens before after
  rcases split_at_last PatternToken.isPlace tokens.wholeTokens with
    none | ⟨start, last, rest, split, held, none⟩
  · obtain ⟨places, commas⟩ := scalingCommas_of_none none
    have placeless : ∀ token ∈ wholeTokens (front ++ (tokens ++ back)), token.isPlace = false := by
      rw [whole]
      exact List.forall_mem_append.mpr
        ⟨before.placeless, List.forall_mem_append.mpr ⟨none, text.placeless⟩⟩
    obtain ⟨places', commas'⟩ := scalingCommas_of_none placeless
    exact ⟨commas'.trans commas.symm, by rw [groups, groups, places, places']⟩
  · have longer : wholeTokens (front ++ (tokens ++ back)) =
        (front ++ start) ++ last :: (rest ++ extra) := by
      rw [whole, split]
      simp
    obtain ⟨places, commas⟩ := scalingCommas_of_split split held none
    obtain ⟨places', commas'⟩ := scalingCommas_of_split longer held
      (List.forall_mem_append.mpr ⟨none, text.placeless⟩)
    have loose : PatternToken.comma ∉ front := by
      intro found
      cases before _ found
    refine ⟨by rw [commas', commas, takeWhile_comma_append rest text], ?_⟩
    rw [groups, groups, places', places]
    simp [loose]

theorem numeral_between (amount : Amount) :
    numeral (front ++ (tokens ++ back)) amount = tokens.numeral amount := by
  obtain ⟨extra, text, whole⟩ := wholeTokens_between tokens before after
  obtain ⟨extra', text', fraction⟩ := fractionTokens_between tokens before after
  have counts {part : PatternSection} (text : part.IsText) :
      part.countP (· == .zero) = 0 ∧ part.countP (· == .percent) = 0 ∧
        part.countP (·.isPlace) = 0 := by
    refine ⟨text.countP ?_, text.countP ?_, text.countP not_text_of_isPlace⟩
    all_goals
      intro token same
      rw [eq_of_beq same]
      rfl
  have leastWhole : leastWhole (front ++ (tokens ++ back)) = tokens.leastWhole := by
    simp [PatternSection.leastWhole, List.count, whole, counts before, counts text]
  have leastFraction : leastFraction (front ++ (tokens ++ back)) = tokens.leastFraction := by
    simp [PatternSection.leastFraction, List.count, fraction, counts text']
  have mostFraction : mostFraction (front ++ (tokens ++ back)) = tokens.mostFraction := by
    simp [PatternSection.mostFraction, fraction, counts text']
  have percents : percents (front ++ (tokens ++ back)) = tokens.percents := by
    simp [PatternSection.percents, List.count, counts before, counts after]
  have commas := (scalingCommas_between tokens before after).1
  rw [numeral, numeral, leastWhole, leastFraction, mostFraction, percents, commas]

omit before after in
theorem around_first_place (placed : tokens.any (·.isPlace) = true) (back : PatternSection) :
    (tokens ++ back).takeWhile (!·.isPlace) = tokens.takeWhile (!·.isPlace) ∧
      (tokens ++ back).dropWhile (!·.isPlace) = tokens.dropWhile (!·.isPlace) ++ back := by
  induction tokens with
  | nil => cases placed
  | cons token rest ih =>
    rw [List.cons_append, List.takeWhile_cons, List.takeWhile_cons, List.dropWhile_cons,
      List.dropWhile_cons]
    cases place : token.isPlace with
    | true => exact ⟨rfl, rfl⟩
    | false =>
      rw [List.any_cons, place, Bool.false_or] at placed
      obtain ⟨fore, aft⟩ := ih placed
      exact ⟨congrArg (token :: ·) fore, aft⟩

theorem glyphs_between (amount : Amount) :
    glyphs (front ++ (tokens ++ back)) amount =
      affix front ++ tokens.glyphs amount ++ affix back := by
  have groups := (scalingCommas_between tokens before after).2
  have fore : front.any (·.isPlace) = false := by simpa using before.placeless
  have aft : back.any (·.isPlace) = false := by simpa using after.placeless
  have placed : (front ++ (tokens ++ back)).any (·.isPlace) = tokens.any (·.isPlace) := by
    rw [List.any_append, List.any_append, fore, aft, Bool.false_or, Bool.or_false]
  have passed : ∀ token ∈ front, (!token.isPlace) = true := fun token found => by
    rw [before.placeless token found]
    rfl
  unfold glyphs
  rw [placed, groups, numeral_between tokens before after]
  split
  · rename_i some_place
    obtain ⟨leading, trailing⟩ := around_first_place tokens some_place back
    rw [List.takeWhile_append_of_pos passed, List.dropWhile_append_of_pos passed, leading, trailing,
      affix_append, affix_append]
    simp only [List.append_assoc]
  · rw [affix_append, affix_append, List.append_assoc]

end Between

end PatternSection

theorem Spells.letterless {piece text : List Char} (spells : Spells piece text) :
    ∀ c ∈ piece.head?, c.isAlpha = false := by
  intro c first
  cases spells with
  | nil => cases first
  | escape =>
    cases first
    rfl
  | quotation opens inner tail =>
    cases first
    exact quote_not_letter opens

theorem plain_closed {text : List Char} (plain : ∀ c ∈ text, IsPlain c) : Closed text := by
  induction text with
  | nil => exact .nil
  | cons c rest ih =>
    obtain ⟨first, behind⟩ := List.forall_mem_cons.mp plain
    refine .plain ?_ ?_ (ih behind)
    all_goals rcases plain_cases first with rfl | rfl | rfl | rfl | rfl <;> decide

theorem letterless_append {left right : List Char} (first : ∀ c ∈ left.head?, c.isAlpha = false)
    (second : ∀ c ∈ right.head?, c.isAlpha = false) :
    ∀ c ∈ (left ++ right).head?, c.isAlpha = false := by
  cases left with
  | nil => exact second
  | cons c rest => exact first

/-- A plain pattern between two pieces that spell texts shows its number between these texts. -/
theorem formatAmount_between {front before back after pattern : List Char}
    (leading : Spells front before) (trailing : Spells back after)
    (plain : ∀ c ∈ pattern, IsPlain c) (given : front ++ (pattern ++ back) ≠ []) (amount : Amount)
    (locale : Locale) :
    formatAmount amount (String.ofList (front ++ (pattern ++ back))) locale =
      .ok (String.ofList (before ++
        writeGlyphs locale (PatternSection.glyphs (pattern.map plainToken) amount) ++ after)) := by
  have live : ReadingMode.live.after pattern = .live := ReadingMode.after_closed (plain_closed plain)
  have uncut : sectionsFrom .live (front ++ (pattern ++ back)) = [front ++ (pattern ++ back)] := by
    refine uncut_append leading.uncut ?_
    rw [ReadingMode.after_closed leading.closed]
    refine uncut_append (sectionsFrom_plain plain) ?_
    rw [live]
    exact trailing.uncut
  have letterless : ∀ c ∈ (front ++ (pattern ++ back)).head?, c.isAlpha = false :=
    letterless_append leading.letterless
      (letterless_append (plain_letterless plain) trailing.letterless)
  have tokens : PatternSection.ofChars (front ++ (pattern ++ back)) =
      PatternSection.ofChars front ++ (pattern.map plainToken ++ PatternSection.ofChars back) := by
    rw [← ofChars_plain plain]
    unfold PatternSection.ofChars
    rw [tokensFrom_append, tokensFrom_append, ReadingMode.after_closed leading.closed, live]
  obtain ⟨words, shown⟩ := PatternSection.ofChars_spelled leading
  obtain ⟨words', shown'⟩ := PatternSection.ofChars_spelled trailing
  rw [formatAmount_of_glyphs (amountGlyphs_uncut given letterless uncut locale.currency amount),
    tokens, PatternSection.glyphs_between _ words words', shown, shown', writeGlyphs_append,
    writeGlyphs_append, writeGlyphs_ofChars, writeGlyphs_ofChars]

theorem formatAmount_beside {piece text pattern : List Char} (spelled : Spells piece text)
    (plain : ∀ c ∈ pattern, IsPlain c) (given : pattern ≠ []) (amount : Amount) (locale : Locale) :
    let shown := writeGlyphs locale (PatternSection.glyphs (pattern.map plainToken) amount)
    formatAmount amount (String.ofList (piece ++ pattern)) locale =
        .ok (String.ofList (text ++ shown)) ∧
      formatAmount amount (String.ofList (pattern ++ piece)) locale =
        .ok (String.ofList (shown ++ text)) := by
  intro shown
  have leading := formatAmount_between spelled .nil plain (by simp [given]) amount locale
  have trailing := formatAmount_between .nil spelled plain (by simp [given]) amount locale
  simp only [List.append_nil] at leading
  exact ⟨leading, trailing⟩

/-- Escaped or quoted text in front of a plain pattern or behind it is shown as it is, and all else is
what the pattern shows without it. Escaped text alone is shown for every amount. -/
theorem verbatim_text_stands_beside_the_number (text pattern : List Char)
    (plain : ∀ c ∈ pattern, c ∈ ['0', '#', '.', ',', '%']) (given : pattern ≠ []) (amount : Amount)
    (locale : Locale) :
    let render (format : List Char) := formatAmount amount (String.ofList format) locale
    let escaped := escapedText text
    (∃ shown, render pattern = .ok (String.ofList shown) ∧
      render (escaped ++ pattern) = .ok (String.ofList (text ++ shown)) ∧
      render (pattern ++ escaped) = .ok (String.ofList (shown ++ text)) ∧
      ∀ mark ∈ ['"', '\x27'], mark ∉ text →
        let quoted := quotedText mark text
        render (quoted ++ pattern) = .ok (String.ofList (text ++ shown)) ∧
        render (pattern ++ quoted) = .ok (String.ofList (shown ++ text))) ∧
    (text ≠ [] → render escaped = .ok (String.ofList text)) := by
  intro render escaped
  have spelled : Spells escaped text := escapedText_spells text
  constructor
  · obtain ⟨leading, trailing⟩ := formatAmount_beside spelled plain given amount locale
    refine ⟨_, formatAmount_plain plain given amount locale, leading, trailing, ?_⟩
    intro mark listed inner quoted
    have opens : isQuoteMark mark = true := by simpa [isQuoteMark] using listed
    exact formatAmount_beside (quotedText_spells opens inner) plain given amount locale
  · intro some_text
    have piece : escaped ++ [] ≠ [] := by
      cases text with
      | nil => exact absurd rfl some_text
      | cons c rest => exact List.cons_ne_nil _ _
    have alone := formatAmount_between spelled .nil (List.forall_mem_nil IsPlain) piece amount locale
    -- An empty pattern between two pieces shows nothing of the amount.
    have none : writeGlyphs locale (PatternSection.glyphs [] amount) = [] := rfl
    simp only [List.map_nil, none, List.append_nil] at alone
    exact alone

theorem verbatim_text_stands_beside_the_number_special :
    "#,##0.0%" ≠ "" ∧ '"' ∉ ";0,'%\\".toList ∧
      formatAmount (.integer (-1234)) "#,##0.0%" .deDE = .ok "-123.400,0%" ∧
      formatAmount (.integer (-1234)) "\\;\\0\\%\\\"#,##0.0%" .deDE = .ok ";0%\"-123.400,0%" ∧
      formatAmount (.integer (-1234)) "#,##0.0%\";0,'%\\\"" .deDE = .ok "-123.400,0%;0,'%\\" ∧
      formatAmount (.integer (-1234)) "\\;\\0\\%\\\"" .deDE = .ok ";0%\"" := by
  have shown : formatAmount (.integer (-1234)) "#,##0.0%" .deDE = .ok "-123.400,0%" := rfl
  have plain : ∀ c ∈ "#,##0.0%".toList, c ∈ ['0', '#', '.', ',', '%'] := by simp
  have unfolded {text : List Char}
      (rendered : formatAmount (.integer (-1234)) (String.ofList "#,##0.0%".toList) .deDE =
        .ok (String.ofList text)) : String.ofList text = "-123.400,0%" := by
    rw [String.ofList_toList, shown] at rendered
    exact (Except.ok.inj rendered).symm
  obtain ⟨⟨first, rendered, leading, -, -⟩, alone⟩ :=
    verbatim_text_stands_beside_the_number ";0%\"".toList "#,##0.0%".toList plain (by decide)
      (.integer (-1234)) .deDE
  obtain ⟨⟨second, rendered', -, -, quotes⟩, -⟩ :=
    verbatim_text_stands_beside_the_number ";0,'%\\".toList "#,##0.0%".toList plain (by decide)
      (.integer (-1234)) .deDE
  have trailing := (quotes '"' (by decide) (by decide)).2
  rw [String.ofList_append, unfolded rendered] at leading
  rw [String.ofList_append, unfolded rendered'] at trailing
  exact ⟨by decide, by decide, shown, leading, trailing, alone (by decide)⟩

end ReportColumns
