import Mathlib.Data.List.Induction
import ReportColumns.Locale.Preset
import ReportColumns.NumberFormat.Render
import ReportColumns.Proofs.Decimal.Zero
/-!
Sections of a custom pattern.

A semicolon parts two sections only where it is live: not behind a live backslash and not inside quotes.
What is live can be said without a reading mode. A closed text is made of plain characters, escaped
characters and quotations with both quotes; the character after it is live. A section holds no live
semicolon, so each one is a pattern of its own, and a pattern formats an amount as one of its sections
formats it alone.
-/

namespace ReportColumns

inductive Closed : List Char → Prop where
  | nil : Closed []
  | plain {c : Char} {rest : List Char} (bare : c ≠ '\\') (unquoted : isQuoteMark c = false)
      (tail : Closed rest) : Closed (c :: rest)
  | escape (c : Char) {rest : List Char} (tail : Closed rest) : Closed ('\\' :: c :: rest)
  | quotation {mark : Char} {inside rest : List Char} (opens : isQuoteMark mark = true)
      (inner : mark ∉ inside) (tail : Closed rest) : Closed (mark :: inside ++ mark :: rest)

/-- A text after which the next character is literal: it ends in a live backslash, or in a quotation that
is still open. -/
inductive Shielding : List Char → Prop where
  | backslash {before : List Char} (closed : Closed before) : Shielding (before ++ ['\\'])
  | quotation {before inside : List Char} {mark : Char} (closed : Closed before)
      (opens : isQuoteMark mark = true) (inner : mark ∉ inside) :
      Shielding (before ++ mark :: inside)

namespace ReadingMode

variable {mode : ReadingMode} {text before rest : List Char} {c mark : Char}

theorem after_cons (mode : ReadingMode) (c : Char) (rest : List Char) :
    mode.after (c :: rest) = (mode.next c).after rest := rfl

theorem after_append (mode : ReadingMode) (left right : List Char) :
    mode.after (left ++ right) = (mode.after left).after right := by
  simp [after]

theorem next_plain (bare : c ≠ '\\') (unquoted : isQuoteMark c = false) :
    live.next c = .live := by
  simp [next, bare, unquoted]

theorem next_quote (opens : isQuoteMark mark = true) : live.next mark = .quoted mark := by
  have bare : mark ≠ '\\' := by
    intro same
    rw [same] at opens
    exact absurd opens (by decide)
  simp [next, bare, opens]

theorem after_inside {inside : List Char} (inner : mark ∉ inside) :
    (quoted mark).after inside = .quoted mark := by
  induction inside with
  | nil => rfl
  | cons c rest ih =>
    have other : c ≠ mark := by
      intro same
      exact inner (by simp [same])
    rw [after_cons, next, if_neg other]
    exact ih fun member => inner (List.mem_cons_of_mem c member)

theorem after_closed (closed : Closed text) : live.after text = .live := by
  induction closed with
  | nil => rfl
  | plain bare unquoted tail ih => rw [after_cons, next_plain bare unquoted, ih]
  | escape c tail ih => exact ih
  | @quotation mark inside rest opens inner tail ih =>
    rw [List.cons_append, after_cons, next_quote opens, after_append, after_inside inner, after_cons,
      next, if_pos rfl, ih]

end ReadingMode

theorem Closed.append {left right : List Char} (closed : Closed left) (other : Closed right) :
    Closed (left ++ right) := by
  induction closed with
  | nil => exact other
  | plain bare unquoted tail ih => exact .plain bare unquoted ih
  | escape c tail ih => exact .escape c ih
  | @quotation mark inside rest opens inner tail ih => simpa using Closed.quotation opens inner ih

namespace ReadingMode

variable {mode : ReadingMode} {text : List Char}

def Reached (text : List Char) : ReadingMode → Prop
  | .live => Closed text
  | .escaped => ∃ before, Closed before ∧ text = before ++ ['\\']
  | .quoted mark => ∃ before inside, Closed before ∧ isQuoteMark mark = true ∧ mark ∉ inside ∧
      text = before ++ mark :: inside

theorem Reached.next (reached : mode.Reached text) (c : Char) :
    (mode.next c).Reached (text ++ [c]) := by
  cases mode with
  | live =>
    by_cases bare : c = '\\'
    · subst bare
      exact ⟨text, reached, rfl⟩
    · cases opens : isQuoteMark c with
      | false =>
        rw [next_plain bare opens]
        exact Closed.append reached (.plain bare opens .nil)
      | true =>
        rw [next_quote opens]
        exact ⟨text, [], reached, opens, by simp, rfl⟩
  | escaped =>
    obtain ⟨before, closed, rfl⟩ := reached
    have whole : Closed (before ++ ['\\', c]) := closed.append (.escape c .nil)
    simpa [ReadingMode.next, Reached] using whole
  | quoted mark =>
    obtain ⟨before, inside, closed, opens, inner, rfl⟩ := reached
    by_cases same : c = mark
    · subst same
      have whole : Closed (before ++ (c :: inside ++ [c])) :=
        closed.append (.quotation opens inner .nil)
      simpa [ReadingMode.next, Reached] using whole
    · rw [ReadingMode.next, if_neg same]
      refine ⟨before, inside ++ [c], closed, opens, ?_, by simp⟩
      simp [inner, Ne.symm same]

theorem reached_after (text : List Char) : (live.after text).Reached text := by
  -- The mode after a text depends on the last character and on the mode before it.
  induction text using List.reverseRecOn with
  | nil => exact Closed.nil
  | append_singleton text c ih =>
    rw [after_append]
    exact ih.next c

theorem after_ne_live_iff : live.after text ≠ .live ↔ Shielding text := by
  constructor
  · intro literal
    have reached := reached_after text
    cases mode : live.after text with
    | live => exact absurd mode literal
    | escaped =>
      rw [mode] at reached
      obtain ⟨before, closed, rfl⟩ := reached
      exact .backslash closed
    | quoted mark =>
      rw [mode] at reached
      obtain ⟨before, inside, closed, opens, inner, rfl⟩ := reached
      exact .quotation closed opens inner
  · intro shielding
    cases shielding with
    | backslash closed =>
      rw [after_append, after_closed closed]
      decide
    | quotation closed opens inner =>
      rw [after_append, after_closed closed, after_cons, next_quote opens, after_inside inner]
      exact fun same => nomatch same

end ReadingMode

section Cutting

variable {mode : ReadingMode} {text before piece rest : List Char} {pieces : List (List Char)} {c : Char}

theorem sectionsFrom_semicolon (rest : List Char) :
    sectionsFrom .live (';' :: rest) = [] :: sectionsFrom .live rest := by
  simp [sectionsFrom]

theorem sectionsFrom_other (kept : ¬ (mode = .live ∧ c = ';')) (rest : List Char) :
    sectionsFrom mode (c :: rest) = (sectionsFrom (mode.next c) rest).modifyHead (c :: ·) := by
  rw [sectionsFrom, if_neg kept]

theorem sectionsFrom_ne_nil (mode : ReadingMode) (text : List Char) : sectionsFrom mode text ≠ [] := by
  induction text generalizing mode with
  | nil => simp [sectionsFrom]
  | cons c rest ih =>
    rw [sectionsFrom]
    split
    · simp
    · rw [ne_eq, List.modifyHead_eq_nil_iff]
      exact ih _

theorem joined_modifyHead (some_piece : pieces ≠ []) (c : Char) :
    [';'].intercalate (pieces.modifyHead (c :: ·)) = c :: [';'].intercalate pieces := by
  match pieces with
  | [piece] => rfl
  | piece :: next :: others => simp [List.intercalate_cons_cons]

theorem joined_append {others : List (List Char)} (some_piece : pieces ≠ []) (other : others ≠ []) :
    [';'].intercalate (pieces ++ others) =
      [';'].intercalate pieces ++ ';' :: [';'].intercalate others := by
  induction pieces with
  | nil => exact absurd rfl some_piece
  | cons piece behind ih =>
    cases behind with
    | nil => simp [List.intercalate_cons_of_ne_nil other]
    | cons next more =>
      have tail := ih (List.cons_ne_nil next more)
      simp only [List.cons_append, List.intercalate_cons_cons] at tail ⊢
      rw [tail]
      simp

theorem joined_sectionsFrom (mode : ReadingMode) (text : List Char) :
    [';'].intercalate (sectionsFrom mode text) = text := by
  induction text generalizing mode with
  | nil => rfl
  | cons c rest ih =>
    by_cases cuts : mode = .live ∧ c = ';'
    · obtain ⟨rfl, rfl⟩ := cuts
      rw [sectionsFrom_semicolon, List.intercalate_cons_of_ne_nil (sectionsFrom_ne_nil _ _), ih]
      rfl
    · rw [sectionsFrom_other cuts, joined_modifyHead (sectionsFrom_ne_nil _ _), ih]

/-- No piece can be cut again. The first is read on in the mode of the text, every other one starts
live. -/
theorem sectionsFrom_pieces (mode : ReadingMode) (text : List Char) :
    ∃ first others, sectionsFrom mode text = first :: others ∧
      sectionsFrom mode first = [first] ∧ ∀ piece ∈ others, sectionsFrom .live piece = [piece] := by
  induction text generalizing mode with
  | nil => exact ⟨[], [], rfl, rfl, by simp⟩
  | cons c rest ih =>
    by_cases cuts : mode = .live ∧ c = ';'
    · obtain ⟨rfl, rfl⟩ := cuts
      obtain ⟨first, others, cut, single, all⟩ := ih .live
      refine ⟨[], first :: others, by rw [sectionsFrom_semicolon, cut], rfl, ?_⟩
      intro piece listed
      rcases List.mem_cons.mp listed with rfl | behind
      · exact single
      · exact all piece behind
    · obtain ⟨first, others, cut, single, all⟩ := ih (mode.next c)
      refine ⟨c :: first, others, by rw [sectionsFrom_other cuts, cut]; rfl, ?_, all⟩
      rw [sectionsFrom_other cuts, single]
      rfl

theorem after_pieces {count : Nat} (some_piece : 0 < count)
    (short : count < (sectionsFrom mode text).length) :
    mode.after ([';'].intercalate ((sectionsFrom mode text).take count)) = .live := by
  induction text generalizing mode count with
  | nil =>
    simp only [sectionsFrom, List.length_singleton] at short
    omega
  | cons c rest ih =>
    obtain ⟨less, rfl⟩ : ∃ less, count = less + 1 := ⟨count - 1, by omega⟩
    by_cases cuts : mode = .live ∧ c = ';'
    · obtain ⟨rfl, rfl⟩ := cuts
      rw [sectionsFrom_semicolon] at short ⊢
      rw [List.take_succ_cons]
      cases less with
      | zero => rfl
      | succ less =>
        have behind : ReadingMode.live.after
            ([';'].intercalate ((sectionsFrom .live rest).take (less + 1))) = .live :=
          ih (by omega) (by simpa using short)
        rw [List.intercalate_cons_of_ne_nil]
        · exact behind
        · simp [sectionsFrom_ne_nil]
    · rw [sectionsFrom_other cuts] at short ⊢
      rw [List.take_modifyHead, joined_modifyHead (by simp [sectionsFrom_ne_nil])]
      exact ih some_piece (by simpa using short)

theorem cut_at_live (live : mode.after before = .live) (rest : List Char) :
    1 < (sectionsFrom mode (before ++ ';' :: rest)).length := by
  induction before generalizing mode with
  | nil =>
    have same : mode = .live := live
    rw [same, List.nil_append, sectionsFrom_semicolon, List.length_cons]
    have := List.length_pos_iff.mpr (sectionsFrom_ne_nil .live rest)
    omega
  | cons c others ih =>
    by_cases cuts : mode = .live ∧ c = ';'
    · obtain ⟨rfl, rfl⟩ := cuts
      rw [List.cons_append, sectionsFrom_semicolon, List.length_cons]
      have := List.length_pos_iff.mpr (sectionsFrom_ne_nil .live (others ++ ';' :: rest))
      omega
    · rw [List.cons_append, sectionsFrom_other cuts, List.length_modifyHead]
      exact ih live

theorem uncut_cons (kept : ¬ (mode = .live ∧ c = ';'))
    (uncut : sectionsFrom (mode.next c) rest = [rest]) :
    sectionsFrom mode (c :: rest) = [c :: rest] := by
  rw [sectionsFrom_other kept, uncut]
  rfl

theorem uncut_of_cons (uncut : sectionsFrom mode (c :: rest) = [c :: rest]) :
    ¬ (mode = .live ∧ c = ';') ∧ sectionsFrom (mode.next c) rest = [rest] := by
  have kept : ¬ (mode = .live ∧ c = ';') := by
    rintro ⟨rfl, rfl⟩
    rw [sectionsFrom_semicolon] at uncut
    cases uncut
  refine ⟨kept, ?_⟩
  rw [sectionsFrom_other kept] at uncut
  cases pieces : sectionsFrom (mode.next c) rest with
  | nil => exact absurd pieces (sectionsFrom_ne_nil _ _)
  | cons first others =>
    rw [pieces, List.modifyHead_cons] at uncut
    cases uncut
    rfl

theorem uncut_append (first : sectionsFrom mode before = [before])
    (second : sectionsFrom (mode.after before) rest = [rest]) :
    sectionsFrom mode (before ++ rest) = [before ++ rest] := by
  induction before generalizing mode with
  | nil => exact second
  | cons c others ih =>
    obtain ⟨kept, tail⟩ := uncut_of_cons first
    exact uncut_cons kept (ih tail second)

end Cutting

section Patterns

variable {pattern piece : List Char}

theorem sectionsFrom_of_section (listed : piece ∈ splitSections pattern) :
    sectionsFrom .live piece = [piece] := by
  obtain ⟨first, others, cut, single, all⟩ := sectionsFrom_pieces .live pattern
  have member : piece ∈ first :: others := cut ▸ List.mem_of_mem_take listed
  rcases List.mem_cons.mp member with rfl | behind
  · exact single
  · exact all piece behind

theorem splitSections_of_section (listed : piece ∈ splitSections pattern) :
    splitSections piece = [piece] := by
  rw [splitSections, sectionsFrom_of_section listed]
  rfl

theorem length_splitSections (pattern : List Char) :
    1 ≤ (splitSections pattern).length ∧ (splitSections pattern).length ≤ 3 := by
  have some_piece := List.length_pos_iff.mpr (sectionsFrom_ne_nil .live pattern)
  rw [splitSections, List.length_take]
  omega

theorem joined_splitSections (pattern : List Char) :
    [';'].intercalate (splitSections pattern) = pattern ∨
      (splitSections pattern).length = 3 ∧
        ∃ rest, pattern = [';'].intercalate (splitSections pattern) ++ ';' :: rest := by
  have joined := joined_sectionsFrom .live pattern
  by_cases few : (sectionsFrom .live pattern).length ≤ 3
  · left
    rw [splitSections, List.take_of_length_le few, joined]
  · right
    have taken : (splitSections pattern).length = 3 := by
      rw [splitSections, List.length_take]
      omega
    refine ⟨taken, [';'].intercalate ((sectionsFrom .live pattern).drop 3), ?_⟩
    have front : (sectionsFrom .live pattern).take 3 ≠ [] := by
      simpa using sectionsFrom_ne_nil .live pattern
    have behind : (sectionsFrom .live pattern).drop 3 ≠ [] := by
      rw [ne_eq, List.drop_eq_nil_iff]
      omega
    rw [splitSections, ← joined_append front behind, List.take_append_drop, joined]

theorem shielding_of_section {before rest : List Char}
    (listed : before ++ ';' :: rest ∈ splitSections pattern) : Shielding before := by
  apply ReadingMode.after_ne_live_iff.mp
  intro live
  have cut := cut_at_live live rest
  rw [sectionsFrom_of_section listed, List.length_singleton] at cut
  omega

theorem joined_ne_of_shielding {before rest : List Char} (literal : Shielding before) (count : Nat) :
    [';'].intercalate ((splitSections (before ++ ';' :: rest)).take count) ≠ before := by
  intro joined
  have mode := ReadingMode.after_ne_live_iff.mpr literal
  rw [splitSections, List.take_take] at joined
  -- No section at all leaves nothing before, some sections end live, and all of them are longer.
  by_cases none_taken : min count 3 = 0
  · rw [none_taken, List.take_zero, List.intercalate_nil] at joined
    exact mode (by rw [← joined]; rfl)
  · by_cases short : min count 3 < (sectionsFrom .live (before ++ ';' :: rest)).length
    · have live := after_pieces (Nat.pos_of_ne_zero none_taken) short
      rw [joined] at live
      exact mode live
    · rw [List.take_of_length_le (by omega), joined_sectionsFrom] at joined
      have lengths := congrArg List.length joined
      rw [List.length_append, List.length_cons] at lengths
      omega

theorem own?_parse (pattern : List Char) (index : Nat) :
    (Pattern.parse pattern).own? index =
      if PatternSection.ofChars ((splitSections pattern).getD index []) = [] then none
      else some (PatternSection.ofChars ((splitSections pattern).getD index [])) := by
  unfold Pattern.own? Pattern.parse
  rw [List.getElem?_map, List.getD_eq_getElem?_getD]
  cases (splitSections pattern)[index]? with
  | none => rfl
  | some piece =>
    cases tokens : PatternSection.ofChars piece <;> simp [tokens]

theorem positive_parse (pattern : List Char) :
    (Pattern.parse pattern).positive =
      PatternSection.ofChars ((splitSections pattern).getD 0 []) := by
  unfold Pattern.positive Pattern.parse
  cases splitSections pattern <;> rfl

theorem splitSections_getD (pattern : List Char) (index : Nat) :
    splitSections ((splitSections pattern).getD index []) =
      [(splitSections pattern).getD index []] := by
  rw [List.getD_eq_getElem?_getD]
  cases held : (splitSections pattern)[index]? with
  | none => rfl
  | some piece => exact splitSections_of_section (List.mem_of_getElem? held)

theorem glyphs_parse_single (single : splitSections piece = [piece]) (amount : Amount) :
    (Pattern.parse piece).glyphs amount = (PatternSection.ofChars piece).glyphs amount := by
  have own (index : Nat) : (Pattern.parse piece).own? (index + 1) = none := by
    simp [Pattern.own?, Pattern.parse, single]
  simp only [Pattern.glyphs, own, ite_self, positive_parse, single]
  rfl

theorem amountGlyphs_uncut (given : piece ≠ []) (letterless : ∀ c ∈ piece.head?, c.isAlpha = false)
    (uncut : sectionsFrom .live piece = [piece]) (currency : Currency) (amount : Amount) :
    amountGlyphs (String.ofList piece) currency amount =
      .ok ((PatternSection.ofChars piece).glyphs amount) := by
  have single : splitSections piece = [piece] := by
    rw [splitSections, uncut]
    rfl
  have read : NumberFormat.parse (String.ofList piece) = .ok (.custom (Pattern.parse piece)) := by
    cases piece with
    | nil => exact absurd rfl given
    | cons c rest =>
      have letter : c.isAlpha = false := letterless c rfl
      simp only [NumberFormat.parse, String.toList_ofList, letter, Bool.false_and,
        Bool.false_eq_true, if_false]
  rw [amountGlyphs_of_parse read, ← glyphs_parse_single single]
  rfl

theorem formatAmount_of_glyphs {format : String} {locale : Locale} {amount : Amount}
    {glyphs : List Glyph} (drawn : amountGlyphs format locale.currency amount = .ok glyphs) :
    formatAmount amount format locale = .ok (String.ofList (writeGlyphs locale glyphs)) := by
  rw [formatAmount, drawn]
  rfl

theorem glyphs_parse (pattern : List Char) (amount : Amount) :
    let part (index : Nat) := (splitSections pattern).getD index []
    (Pattern.parse pattern).glyphs amount =
      if amount.isZero = true ∧ PatternSection.ofChars (part 2) ≠ [] then
        (Pattern.parse (part 2)).glyphs (.integer 0)
      else if amount.isNegative = true ∧ PatternSection.ofChars (part 1) ≠ [] then
        (Pattern.parse (part 1)).glyphs amount.abs
      else (Pattern.parse (part 0)).glyphs amount := by
  intro part
  have alone (index : Nat) (amount : Amount) : (Pattern.parse (part index)).glyphs amount =
      (PatternSection.ofChars (part index)).glyphs amount :=
    glyphs_parse_single (splitSections_getD pattern index) amount
  have own (index : Nat) : (Pattern.parse pattern).own? index =
      if PatternSection.ofChars (part index) = [] then none
      else some (PatternSection.ofChars (part index)) := own?_parse pattern index
  have first : (Pattern.parse pattern).positive = PatternSection.ofChars (part 0) :=
    positive_parse pattern
  rw [alone, alone, alone, Pattern.glyphs, own, own, first]
  -- A section without tokens counts as left out, so both questions are asked of the tokens.
  cases amount.isZero <;> cases amount.isNegative <;>
    by_cases third : PatternSection.ofChars (part 2) = [] <;>
    by_cases second : PatternSection.ofChars (part 1) = [] <;> simp [third, second]

theorem glyphs_zero (tokens : PatternSection) :
    tokens.glyphs (.float 0.0) = tokens.glyphs (.integer 0) := by
  unfold PatternSection.glyphs PatternSection.numeral
  rw [Amount.scaledNumeral_zero]

theorem sections_are_patterns_of_their_own (pattern : List Char) :
    let sections := splitSections pattern
    let part (index : Nat) := sections.getD index []
    -- There are one to three sections, and they lose nothing but what follows the third.
    (1 ≤ sections.length ∧ sections.length ≤ 3) ∧
    ([';'].intercalate sections = pattern ∨
      sections.length = 3 ∧ ∃ rest, pattern = [';'].intercalate sections ++ ';' :: rest) ∧
    -- No section can be cut again, and every semicolon it holds is literal.
    (∀ piece ∈ sections, splitSections piece = [piece] ∧
      ∀ before rest, piece = before ++ ';' :: rest → Shielding before) ∧
    -- No section ends at a literal semicolon.
    (∀ before rest, pattern = before ++ ';' :: rest → Shielding before →
      ∀ count, [';'].intercalate (sections.take count) ≠ before) ∧
    -- An amount is formatted by one of the sections alone.
    (∀ amount locale, (Pattern.parse pattern).format amount locale =
      if amount.isZero = true ∧ PatternSection.ofChars (part 2) ≠ [] then
        (Pattern.parse (part 2)).format (.integer 0) locale
      else if amount.isNegative = true ∧ PatternSection.ofChars (part 1) ≠ [] then
        (Pattern.parse (part 1)).format amount.abs locale
      else (Pattern.parse (part 0)).format amount locale) ∧
    -- Both zeros are formatted alike.
    ∀ index locale, (Pattern.parse (part index)).format (.float 0.0) locale =
      (Pattern.parse (part index)).format (.integer 0) locale := by
  intro sections part
  refine ⟨length_splitSections pattern, joined_splitSections pattern, ?_, ?_, ?_, ?_⟩
  · intro piece listed
    refine ⟨splitSections_of_section listed, ?_⟩
    intro before rest same
    rw [same] at listed
    exact shielding_of_section listed
  · intro before rest same literal count
    have apart : [';'].intercalate ((splitSections (before ++ ';' :: rest)).take count) ≠ before :=
      joined_ne_of_shielding literal count
    rwa [← same] at apart
  · intro amount locale
    unfold Pattern.format
    rw [glyphs_parse]
    split_ifs <;> rfl
  · intro index locale
    have single : splitSections (part index) = [part index] := splitSections_getD pattern index
    unfold Pattern.format
    rw [glyphs_parse_single single, glyphs_parse_single single, glyphs_zero]

theorem sections_are_patterns_of_their_own_quoted :
    let pattern := "#';';\\;-0;\"\";n".toList
    splitSections pattern = ["#';'".toList, "\\;-0".toList, "\"\"".toList] ∧
    (∀ count, [';'].intercalate ((splitSections pattern).take count) ≠ "#'".toList) ∧
    ∀ locale, (Pattern.parse pattern).format (.integer (-5)) locale =
        (Pattern.parse "\\;-0".toList).format (.integer 5) locale ∧
      (Pattern.parse pattern).format (.float 0.0) locale =
        (Pattern.parse "\"\"".toList).format (.integer 0) locale := by
  intro pattern
  have cut : splitSections pattern = ["#';'".toList, "\\;-0".toList, "\"\"".toList] := by decide
  obtain ⟨-, -, -, literal, applied, -⟩ := sections_are_patterns_of_their_own pattern
  have open_quote : Shielding "#'".toList :=
    .quotation (.plain (by decide) (by decide) .nil) (by decide) (by decide)
  refine ⟨cut, literal "#'".toList "';\\;-0;\"\";n".toList (by decide) open_quote, ?_⟩
  intro locale
  constructor
  · rw [applied, if_neg (by decide), if_pos (by decide)]
    rfl
  · rw [applied, if_pos (by decide +kernel)]
    rfl

end Patterns

end ReportColumns
