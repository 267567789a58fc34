import ReportColumns.Proofs.NumberFormat.Sections
/-!
Plain patterns: custom patterns written with digit places, points, commas and percent signs alone. A
plain pattern has one section with one token for each character, so all that rendering asks of the
tokens can be read off the text.
-/

namespace ReportColumns

def IsPlain (c : Char) : Prop := c ∈ ['0', '#', '.', ',', '%']

instance (c : Char) : Decidable (IsPlain c) := inferInstanceAs (Decidable (_ ∈ _))

def plainToken (c : Char) : PatternToken :=
  if c = '0' then .zero
  else if c = '#' then .hash
  else if c = '.' then .point
  else if c = ',' then .comma
  else if c = '%' then .percent
  else .literal c

def isDigitPlace (c : Char) : Bool := c == '0' || c == '#'

theorem plain_cases {c : Char} (plain : IsPlain c) :
    c = '0' ∨ c = '#' ∨ c = '.' ∨ c = ',' ∨ c = '%' := by
  simpa [IsPlain] using plain

theorem read_plain {c : Char} (plain : IsPlain c) :
    ReadingMode.live.read c = [plainToken c] ∧ ReadingMode.live.next c = .live := by
  rcases plain_cases plain with rfl | rfl | rfl | rfl | rfl <;> exact ⟨rfl, rfl⟩

theorem ofChars_plain {text : List Char} (plain : ∀ c ∈ text, IsPlain c) :
    PatternSection.ofChars text = text.map plainToken := by
  unfold PatternSection.ofChars
  induction text with
  | nil => rfl
  | cons c rest ih =>
    obtain ⟨token, mode⟩ := read_plain (plain c (by simp))
    rw [tokensFrom, token, mode, ih fun d found => plain d (by simp [found])]
    rfl

theorem sectionsFrom_plain {text : List Char} (plain : ∀ c ∈ text, IsPlain c) :
    sectionsFrom .live text = [text] := by
  induction text with
  | nil => rfl
  | cons c rest ih =>
    have first := plain c (by simp)
    have joined : ¬ (ReadingMode.live = .live ∧ c = ';') := by
      rintro ⟨-, rfl⟩
      exact absurd first (by decide)
    refine uncut_cons joined ?_
    rw [(read_plain first).2]
    exact ih fun d found => plain d (by simp [found])

theorem plain_letterless {text : List Char} (plain : ∀ c ∈ text, IsPlain c) :
    ∀ c ∈ text.head?, c.isAlpha = false := by
  intro c first
  rcases plain_cases (plain c (List.mem_of_mem_head? first)) with rfl | rfl | rfl | rfl | rfl <;>
    decide

theorem amountGlyphs_plain {text : List Char} (plain : ∀ c ∈ text, IsPlain c) (given : text ≠ [])
    (currency : Currency) (amount : Amount) :
    amountGlyphs (String.ofList text) currency amount =
      .ok (PatternSection.glyphs (text.map plainToken) amount) := by
  rw [amountGlyphs_uncut given (plain_letterless plain) (sectionsFrom_plain plain),
    ofChars_plain plain]

theorem formatAmount_plain {text : List Char} (plain : ∀ c ∈ text, IsPlain c) (given : text ≠ [])
    (amount : Amount) (locale : Locale) :
    formatAmount amount (String.ofList text) locale =
      .ok (String.ofList (writeGlyphs locale
        (PatternSection.glyphs (text.map plainToken) amount))) :=
  formatAmount_of_glyphs (amountGlyphs_plain plain given locale.currency amount)

theorem split_at_last (holds : α → Bool) (l : List α) :
    (∀ c ∈ l, holds c = false) ∨
      ∃ front last rest, l = front ++ last :: rest ∧ holds last = true ∧
        ∀ c ∈ rest, holds c = false := by
  induction l with
  | nil => exact Or.inl (by simp)
  | cons c rest ih =>
    rcases ih with none | ⟨front, last, behind, same, held, none⟩
    · cases held : holds c with
      | true => exact Or.inr ⟨[], c, rest, rfl, held, none⟩
      | false => exact Or.inl (by simpa [held] using none)
    · exact Or.inr ⟨c :: front, last, behind, by rw [same]; rfl, held, none⟩

theorem dropWhile_of_none {holds : α → Bool} {l rest : List α} (none : ∀ c ∈ l, holds c = false) :
    (l ++ rest).dropWhile (!holds ·) = rest.dropWhile (!holds ·) :=
  List.dropWhile_append_of_pos fun c found => by simp [none c found]

theorem trimmed_of_none {holds : α → Bool} {l : List α} (none : ∀ c ∈ l, holds c = false) :
    (l.reverse.dropWhile (!holds ·)).reverse = [] := by
  have dropped : (l.reverse ++ []).dropWhile (!holds ·) = [] :=
    dropWhile_of_none fun c found => none c (List.mem_reverse.mp found)
  rw [List.append_nil] at dropped
  rw [dropped]
  rfl

theorem trimmed_of_split {holds : α → Bool} {front rest : List α} {last : α}
    (held : holds last = true) (none : ∀ c ∈ rest, holds c = false) :
    ((front ++ last :: rest).reverse.dropWhile (!holds ·)).reverse = front ++ [last] := by
  have turned : (front ++ last :: rest).reverse = rest.reverse ++ last :: front.reverse := by simp
  rw [turned, dropWhile_of_none fun c found => none c (List.mem_reverse.mp found),
    List.dropWhile_cons_of_neg (by simp [held])]
  simp

theorem trimmed_contains [BEq α] [LawfulBEq α] (holds : α → Bool) {x : α}
    (fails : holds x = false) (l : List α) :
    (l.reverse.dropWhile (!holds ·)).reverse.contains x = (l.dropWhile (· != x)).any holds := by
  rcases split_at_last holds l with none | ⟨front, last, rest, same, held, none⟩
  · rw [trimmed_of_none none]
    have empty : ∀ c ∈ l.dropWhile (· != x), holds c = false := fun c found =>
      none c ((List.dropWhile_sublist _).subset found)
    simpa using empty
  · subst same
    rw [trimmed_of_split held none]
    induction front with
    | nil =>
      have differs : last ≠ x := by
        rintro rfl
        simp [held] at fails
      have empty : ∀ c ∈ rest.dropWhile (· != x), holds c = false := fun c found =>
        none c ((List.dropWhile_sublist _).subset found)
      simpa [differs, differs.symm] using empty
    | cons c front ih =>
      by_cases same : c = x
      · simp [same, held]
      · have passed : (x == c) = false := beq_eq_false_iff_ne.mpr (Ne.symm same)
        simpa [same, passed] using ih

theorem plainToken_ne_point (c : Char) : (plainToken c != .point) = (c != '.') := by
  grind [plainToken]

theorem plainToken_isPlace (c : Char) : (plainToken c).isPlace = isDigitPlace c := by
  grind [plainToken, isDigitPlace, PatternToken.isPlace]

theorem plainToken_eq_zero (c : Char) : (plainToken c == .zero) = (c == '0') := by
  grind [plainToken]

theorem plainToken_eq_comma (c : Char) : (plainToken c == .comma) = (c == ',') := by
  grind [plainToken]

theorem plainToken_eq_percent (c : Char) : (plainToken c == .percent) = (c == '%') := by
  grind [plainToken]

def integerPart (text : List Char) : List Char := text.takeWhile (· != '.')

def fractionPart (text : List Char) : List Char := (text.dropWhile (· != '.')).drop 1

def groupsDigits (part : List Char) : Bool := (part.dropWhile (· != ',')).any isDigitPlace

def scalesDigits (part : List Char) : Bool :=
  part.any isDigitPlace && (part.reverse.takeWhile (!isDigitPlace ·)).getLast? == some ','

namespace PatternSection

variable (text : List Char)

theorem count_map_plainToken (token : PatternToken) (c : Char)
    (same : ∀ d, (plainToken d == token) = (d == c)) :
    (text.map plainToken).count token = text.count c := by
  rw [List.count_eq_countP, List.countP_map, List.count_eq_countP]
  exact congrFun (congrArg List.countP (funext same)) text

theorem wholeTokens_plain :
    wholeTokens (text.map plainToken) = (integerPart text).map plainToken := by
  unfold wholeTokens integerPart
  rw [List.takeWhile_map]
  exact congrArg (fun stop => (text.takeWhile stop).map plainToken) (funext plainToken_ne_point)

theorem fractionTokens_plain :
    fractionTokens (text.map plainToken) = (fractionPart text).map plainToken := by
  unfold fractionTokens fractionPart
  rw [List.dropWhile_map, ← List.map_drop]
  exact congrArg (fun stop => ((text.dropWhile stop).drop 1).map plainToken)
    (funext plainToken_ne_point)

theorem leastWhole_plain :
    leastWhole (text.map plainToken) = (integerPart text).count '0' := by
  rw [leastWhole, wholeTokens_plain]
  exact count_map_plainToken _ _ _ plainToken_eq_zero

theorem leastFraction_plain :
    leastFraction (text.map plainToken) = (fractionPart text).count '0' := by
  rw [leastFraction, fractionTokens_plain]
  exact count_map_plainToken _ _ _ plainToken_eq_zero

theorem mostFraction_plain :
    mostFraction (text.map plainToken) = (fractionPart text).countP isDigitPlace := by
  rw [mostFraction, fractionTokens_plain, List.countP_map]
  exact congrFun (congrArg List.countP (funext plainToken_isPlace)) _

theorem percents_plain : percents (text.map plainToken) = text.count '%' :=
  count_map_plainToken _ _ _ plainToken_eq_percent

theorem affix_plain (plain : ∀ c ∈ text, IsPlain c) :
    affix (text.map plainToken) = Glyph.ofChars (List.replicate (text.count '%') '%') := by
  induction text with
  | nil => rfl
  | cons c rest ih =>
    have tail := ih fun d found => plain d (by simp [found])
    rw [List.map_cons, affix, List.flatMap_cons, ← affix, tail, List.count_cons]
    rcases plain_cases (plain c (by simp)) with rfl | rfl | rfl | rfl | rfl <;>
      simp [plainToken, Glyph.ofChars, List.replicate_succ]

theorem takeWhile_not_place_plain :
    (text.map plainToken).takeWhile (!·.isPlace) =
      (text.takeWhile (!isDigitPlace ·)).map plainToken := by
  rw [List.takeWhile_map]
  exact congrArg (fun stop => (text.takeWhile stop).map plainToken)
    (funext fun c => congrArg not (plainToken_isPlace c))

theorem dropWhile_not_place_plain :
    (text.map plainToken).dropWhile (!·.isPlace) =
      (text.dropWhile (!isDigitPlace ·)).map plainToken := by
  rw [List.dropWhile_map]
  exact congrArg (fun stop => (text.dropWhile stop).map plainToken)
    (funext fun c => congrArg not (plainToken_isPlace c))

theorem groups_plain : groups (text.map plainToken) = groupsDigits (integerPart text) := by
  rw [groups, wholePlaces, wholeTokens_plain,
    trimmed_contains PatternToken.isPlace rfl, List.dropWhile_map, List.any_map]
  have stop : (fun c => plainToken c != .comma) = (· != ',') :=
    funext fun c => congrArg not (plainToken_eq_comma c)
  have place : PatternToken.isPlace ∘ plainToken = isDigitPlace := funext plainToken_isPlace
  rw [place]
  exact congrArg (fun s => ((integerPart text).dropWhile s).any isDigitPlace) stop

theorem scalingCommas_of_split {tokens start rest : PatternSection}
    {last : PatternToken}
    (split : tokens.wholeTokens = start ++ last :: rest) (held : last.isPlace = true)
    (none : ∀ token ∈ rest, token.isPlace = false) :
    tokens.wholePlaces = start ++ [last] ∧
      tokens.scalingCommas = (rest.takeWhile (· == .comma)).length := by
  have places : tokens.wholePlaces = start ++ [last] := by
    rw [wholePlaces, split]
    exact trimmed_of_split held none
  refine ⟨places, ?_⟩
  rw [scalingCommas, if_neg (by simp [places]), places, split, List.append_cons start last rest,
    List.drop_left]

theorem scalingCommas_of_none {tokens : PatternSection}
    (none : ∀ token ∈ tokens.wholeTokens, token.isPlace = false) :
    tokens.wholePlaces = [] ∧ tokens.scalingCommas = 0 := by
  have places : tokens.wholePlaces = [] := trimmed_of_none none
  refine ⟨places, ?_⟩
  rw [scalingCommas, places]
  rfl

theorem scalingCommas_plain (unscaled : scalesDigits (integerPart text) = false) :
    scalingCommas (text.map plainToken) = 0 := by
  have places (part : List Char) (none : ∀ c ∈ part, isDigitPlace c = false) :
      ∀ token ∈ part.map plainToken, token.isPlace = false := by
    intro token found
    obtain ⟨c, listed, rfl⟩ := List.mem_map.mp found
    rw [plainToken_isPlace, none c listed]
  have whole := wholeTokens_plain text
  rcases split_at_last isDigitPlace (integerPart text) with
    none | ⟨front, last, rest, same, held, none⟩
  · exact (scalingCommas_of_none (by rw [whole]; exact places _ none)).2
  · rw [same] at unscaled whole
    rw [List.map_append, List.map_cons] at whole
    rw [(scalingCommas_of_split whole ((plainToken_isPlace last).trans held) (places _ none)).2]
    cases rest with
    | nil => rfl
    | cons c behind =>
      have comma : c ≠ ',' := by
        -- A comma right after the last place would be one that divides, read from the back.
        rintro rfl
        have turned : (front ++ last :: ',' :: behind).reverse =
            (',' :: behind).reverse ++ last :: front.reverse := by simp
        have run : (front ++ last :: ',' :: behind).reverse.takeWhile (!isDigitPlace ·) =
            (',' :: behind).reverse := by
          rw [turned, List.takeWhile_append_of_pos fun d found => by
            simp [none d (List.mem_reverse.mp found)], List.takeWhile_cons_of_neg (by simp [held])]
          simp
        rw [scalesDigits, run] at unscaled
        simp [held] at unscaled
      have passed : (plainToken c == .comma) = false :=
        (plainToken_eq_comma c).trans (beq_eq_false_iff_ne.mpr comma)
      simp [passed]

/-- What a plain section without scaling commas shows: percent signs, the number at the first digit
place, and the other percent signs. -/
theorem glyphs_plain {text : List Char} (plain : ∀ c ∈ text, IsPlain c)
    (place : text.any isDigitPlace = true) (amount : Amount) :
    glyphs (text.map plainToken) amount =
      Glyph.ofChars (List.replicate ((text.takeWhile (!isDigitPlace ·)).count '%') '%') ++
        numeralGlyphs (groupsDigits (integerPart text)) (numeral (text.map plainToken) amount) ++
        Glyph.ofChars (List.replicate ((text.dropWhile (!isDigitPlace ·)).count '%') '%') := by
  have some : (text.map plainToken).any (·.isPlace) = true := by
    rw [List.any_map, ← place]
    exact congrArg text.any (funext plainToken_isPlace)
  have before := affix_plain _ fun c found =>
    plain c ((List.takeWhile_sublist (!isDigitPlace ·)).subset found)
  have after := affix_plain _ fun c found =>
    plain c ((List.dropWhile_sublist (!isDigitPlace ·)).subset found)
  rw [glyphs, if_pos some, takeWhile_not_place_plain, dropWhile_not_place_plain, before, after,
    groups_plain]

theorem trimFraction_of_length_le {least : Nat} {fraction : List Char}
    (short : fraction.length ≤ least) : trimFraction least fraction = fraction := by
  rw [trimFraction, List.take_of_length_le short, List.drop_of_length_le short]
  simp

theorem trimFraction_zeros {least most : Nat} (within : least ≤ most) :
    trimFraction least (List.replicate most '0') = List.replicate least '0' := by
  have gone : (List.replicate (most - least) '0').dropWhile (· == '0') = [] := by simp
  simp [trimFraction, Nat.min_eq_left within, gone]

open Decimal

theorem fitWhole_canonical {n : Numeral} {places least : Nat} (canonical : n.Canonical places)
    (positive : 0 < least) : fitWhole least n.whole = n.whole.leftpad least '0' := by
  unfold fitWhole
  rcases canonical.whole with zero | ⟨first, rest, front, lead⟩
  · obtain ⟨more, rfl⟩ : ∃ more, least = more + 1 := ⟨least - 1, by omega⟩
    simp [zero, List.leftpad, List.replicate_succ']
  · rw [front, List.dropWhile_cons_of_neg (by simpa using lead)]

end PatternSection

end ReportColumns
