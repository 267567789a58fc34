import ReportColumns.Element.SortOrder
import ReportColumns.Proofs.Decimal.Numeral
/-!
The texts that name a sort directive.

A trimmed text names a directive if it is empty or one of three phrases, or if it is a rank, a space and
a direction. Reading accepts just these texts, and the text of every directive is one of them. No text is
both a phrase and ranked: a phrase begins with a letter and a rank with a digit or a plus sign.
-/

namespace ReportColumns.SortOrder

open Decimal Text

def WritesRank (text : List Char) (rank : UInt32) : Prop :=
  ∃ sign ds, text = sign ++ ds ∧ (sign = [] ∨ sign = ['+']) ∧ ds ≠ [] ∧ (∀ c ∈ ds, c.isDigit) ∧
    ofDigits ds = rank.toNat

inductive Ranks : List Char → SortOrder → Prop
  | ascending {text direction : List Char} {rank : UInt32} (written : WritesRank text rank)
      (named : sameIgnoringCase (trim direction) "Ascending".toList) :
      Ranks (text ++ ' ' :: direction) (.ascending rank)
  | descending {text direction : List Char} {rank : UInt32} (written : WritesRank text rank)
      (named : sameIgnoringCase (trim direction) "Descending".toList) :
      Ranks (text ++ ' ' :: direction) (.descending rank)

/-- What a trimmed text means as a directive. -/
inductive Names : List Char → SortOrder → Prop
  | nothing : Names [] .notSorted
  | notSorted {text : List Char} (phrase : sameIgnoringCase text "Not sorted".toList) :
      Names text .notSorted
  | automaticAscending {text : List Char}
      (phrase : sameIgnoringCase text "Automatic Ascending".toList) : Names text .automaticAscending
  | automaticDescending {text : List Char}
      (phrase : sameIgnoringCase text "Automatic Descending".toList) :
      Names text .automaticDescending
  | ranked {text : List Char} {order : SortOrder} (ranks : Ranks text order) : Names text order

variable {text direction : List Char} {rank : UInt32} {order : SortOrder} {c : Char}

theorem digit_plain (digit : c.isDigit) :
    isBlank c = false ∧ c ≠ ' ' ∧ c ≠ '+' ∧ c.toLower ≠ 'n' ∧ c.toLower ≠ 'a' := by
  have ascii := ascii_of_isDigit digit
  revert digit
  apply ascii_induction _ ascii
  decide

theorem WritesRank.plain (written : WritesRank text rank) (found : c ∈ text) :
    isBlank c = false ∧ c ≠ ' ' ∧ c.toLower ≠ 'n' ∧ c.toLower ≠ 'a' := by
  obtain ⟨sign, ds, rfl, signed, -, digits, -⟩ := written
  rcases List.mem_append.mp found with front | digit
  · rcases signed with rfl | rfl
    · cases front
    · obtain rfl := List.mem_singleton.mp front
      decide
  · obtain ⟨solid, no_space, -, not_n, not_a⟩ := digit_plain (digits c digit)
    exact ⟨solid, no_space, not_n, not_a⟩

theorem WritesRank.not_empty (written : WritesRank text rank) : text ≠ [] := by
  obtain ⟨sign, ds, rfl, -, given, -⟩ := written
  exact List.append_ne_nil_of_right_ne_nil sign given

theorem writesRank_digits (rank : UInt32) : WritesRank (digits rank.toNat) rank :=
  ⟨[], digits rank.toNat, rfl, Or.inl rfl, digits_not_empty _, fun _ => digits_are_digits,
    ofDigits_digits _⟩

theorem readRank?_signed {sign ds : List Char} (signed : sign = [] ∨ sign = ['+'])
    (all : sign = [] → ds.head? ≠ some '+') :
    readRank? (sign ++ ds) =
      if ds.isEmpty || !ds.all Char.isDigit then none
      else if ofDigits ds < Nat.pow 2 32 then some (UInt32.ofNat (ofDigits ds))
      else none := by
  rcases signed with rfl | rfl
  · simp [readRank?, all rfl]
  · simp [readRank?]

theorem readRank?_eq_some_iff : readRank? text = some rank ↔ WritesRank text rank := by
  constructor
  · intro read
    obtain ⟨sign, ds, rfl, signed, all⟩ : ∃ sign ds, text = sign ++ ds ∧
        (sign = [] ∨ sign = ['+']) ∧ (sign = [] → ds.head? ≠ some '+') := by
      by_cases plus : text.head? = some '+'
      · obtain ⟨rest, rfl⟩ := List.head?_eq_some_iff.mp plus
        exact ⟨['+'], rest, rfl, Or.inr rfl, by simp⟩
      · exact ⟨[], text, rfl, Or.inl rfl, fun _ => plus⟩
    rw [readRank?_signed signed all] at read
    split at read
    · cases read
    · rename_i accepted
      split at read
      · rename_i fits
        obtain rfl := Option.some.inj read
        simp only [Bool.or_eq_true, not_or, Bool.not_eq_true, Bool.not_eq_false',
          List.isEmpty_eq_false_iff, List.all_eq_true] at accepted
        exact ⟨sign, ds, rfl, signed, accepted.1, accepted.2, (UInt32.toNat_ofNat_of_lt fits).symm⟩
      · cases read
  · rintro ⟨sign, ds, rfl, signed, given, digits, value⟩
    have unsigned : ds.head? ≠ some '+' := by
      intro plus
      exact (digit_plain (digits '+' (List.mem_of_head? plus))).2.2.1 rfl
    have all : ds.all Char.isDigit = true := List.all_eq_true.mpr digits
    have fits : rank.toNat < Nat.pow 2 32 := rank.toNat_lt
    rw [readRank?_signed signed fun _ => unsigned]
    simp [given, all, value, fits]

theorem readRanked?_written (written : WritesRank text rank) (direction : List Char) :
    readRanked? (text ++ ' ' :: direction) =
      if sameIgnoringCase (trim direction) "Ascending".toList then some (.ascending rank)
      else if sameIgnoringCase (trim direction) "Descending".toList then some (.descending rank)
      else none := by
  have absent : ' ' ∉ text := fun found => (written.plain found).2.1 rfl
  unfold readRanked?
  rw [cut?_append absent]
  simp only [Option.bind_eq_bind, Option.bind_some, readRank?_eq_some_iff.mpr written]

theorem readRanked?_eq_some_iff : readRanked? text = some order ↔ Ranks text order := by
  constructor
  · intro read
    obtain ⟨⟨rankText, direction⟩, cut, rest⟩ := Option.bind_eq_some_iff.mp read
    obtain ⟨rank, found, -⟩ := Option.bind_eq_some_iff.mp rest
    obtain ⟨rfl, -⟩ := cut?_eq_some cut
    have written := readRank?_eq_some_iff.mp found
    rw [readRanked?_written written] at read
    split at read
    · rename_i named
      obtain rfl := Option.some.inj read
      exact .ascending written named
    · split at read
      · rename_i named
        obtain rfl := Option.some.inj read
        exact .descending written named
      · cases read
  · intro ranks
    cases ranks with
    | ascending written named => rw [readRanked?_written written, if_pos named]
    | descending written named =>
      have other := sameIgnoringCase_congr named "Ascending".toList
      rw [readRanked?_written written, if_neg (by rw [other]; decide), if_pos named]

theorem Ranks.first (ranks : Ranks text order) :
    ∃ first rest, text = first :: rest ∧ first.toLower ≠ 'n' ∧ first.toLower ≠ 'a' := by
  have starts {rankText behind : List Char} {rank : UInt32} (written : WritesRank rankText rank) :
      ∃ first rest, rankText ++ behind = first :: rest ∧ first.toLower ≠ 'n' ∧
        first.toLower ≠ 'a' := by
    obtain ⟨first, rest, rfl⟩ := List.exists_cons_of_ne_nil written.not_empty
    obtain ⟨-, -, not_n, not_a⟩ := written.plain List.mem_cons_self
    exact ⟨first, rest ++ behind, rfl, not_n, not_a⟩
  cases ranks with
  | ascending written named => exact starts written
  | descending written named => exact starts written

theorem ofChars?_of_first {text rest : List Char} {first : Char} (front : trim text = first :: rest)
    (not_n : first.toLower ≠ 'n') (not_a : first.toLower ≠ 'a') :
    ofChars? text = readRanked? (trim text) := by
  have no_phrase (phrase : List Char) {letter : Char}
      (begins : (lowerLetters phrase).head? = some letter) (other : first.toLower ≠ letter) :
      sameIgnoringCase (trim text) phrase = false := by
    rw [Bool.eq_false_iff, ne_eq, sameIgnoringCase_iff]
    intro same
    rw [← same, front] at begins
    exact other (Option.some.inj begins)
  have not_sorted := no_phrase notSortedPhrase rfl not_n
  have not_ascending := no_phrase automaticAscendingPhrase rfl not_a
  have not_descending := no_phrase automaticDescendingPhrase rfl not_a
  have given : (trim text).isEmpty = false := by rw [front]; rfl
  simp [ofChars?, not_sorted, not_ascending, not_descending, given]

theorem ofChars?_of_phrase {text phrase : List Char} (same : sameIgnoringCase (trim text) phrase) :
    ofChars? text =
      if phrase.isEmpty || sameIgnoringCase phrase notSortedPhrase then some .notSorted
      else if sameIgnoringCase phrase automaticAscendingPhrase then some .automaticAscending
      else if sameIgnoringCase phrase automaticDescendingPhrase then some .automaticDescending
      else readRanked? (trim text) := by
  simp only [ofChars?, sameIgnoringCase_congr same, isEmpty_of_sameIgnoringCase same]

theorem ofChars?_eq_some_iff {text : List Char} :
    ofChars? text = some order ↔ Names (trim text) order := by
  constructor
  · intro read
    unfold ofChars? at read
    dsimp only at read
    split at read
    · rename_i means
      obtain rfl := Option.some.inj read
      rcases Bool.or_eq_true_iff.mp means with empty | phrase
      · rw [List.isEmpty_iff.mp empty]
        exact .nothing
      · exact .notSorted phrase
    · split at read
      · rename_i phrase
        obtain rfl := Option.some.inj read
        exact .automaticAscending phrase
      · split at read
        · rename_i phrase
          obtain rfl := Option.some.inj read
          exact .automaticDescending phrase
        · exact .ranked (readRanked?_eq_some_iff.mp read)
  · intro names
    generalize trimmed : trim text = t at names
    cases names with
    | nothing => simp [ofChars?, trimmed]
    | notSorted phrase => exact ofChars?_of_phrase (trimmed ▸ phrase)
    | automaticAscending phrase => exact ofChars?_of_phrase (trimmed ▸ phrase)
    | automaticDescending phrase => exact ofChars?_of_phrase (trimmed ▸ phrase)
    | ranked ranks =>
      obtain ⟨first, rest, front, not_n, not_a⟩ := ranks.first
      rw [ofChars?_of_first (trimmed.trans front) not_n not_a, trimmed,
        readRanked?_eq_some_iff.mpr ranks]

theorem chars_names (order : SortOrder) : Names order.chars order := by
  cases order with
  | notSorted => exact .notSorted (sameIgnoringCase_refl _)
  | automaticAscending => exact .automaticAscending (sameIgnoringCase_refl _)
  | automaticDescending => exact .automaticDescending (sameIgnoringCase_refl _)
  | ascending rank => exact .ranked (.ascending (writesRank_digits rank) (by decide))
  | descending rank => exact .ranked (.descending (writesRank_digits rank) (by decide))

theorem trim_chars (order : SortOrder) : trim order.chars = order.chars := by
  have ranked (rank : UInt32) {direction : List Char} (given : direction ≠ [])
      (solid : isBlank (direction.getLast given) = false) :
      trim (digits rank.toNat ++ ' ' :: direction) = digits rank.toNat ++ ' ' :: direction := by
    obtain ⟨first, behind, front⟩ := List.exists_cons_of_ne_nil (digits_not_empty rank.toNat)
    have visible := ((writesRank_digits rank).plain (front ▸ List.mem_cons_self)).1
    have last := List.getLast?_eq_some_getLast given
    apply trim_of_ends
    · simpa [front] using visible
    · simpa [List.getLast?_append, List.getLast?_cons, last] using solid
  cases order with
  | notSorted => decide
  | automaticAscending => decide
  | automaticDescending => decide
  | ascending rank => exact ranked rank (by decide) (by decide)
  | descending rank => exact ranked rank (by decide) (by decide)

theorem parse_text (order : SortOrder) : parse order.text = .ok order := by
  rw [parse, SortOrder.text, String.toList_ofList,
    ofChars?_eq_some_iff.mpr ((trim_chars order).symm ▸ chars_names order)]

theorem parse_eq_ok_iff {text : String} : parse text = .ok order ↔ Names (trim text.toList) order := by
  rw [← ofChars?_eq_some_iff, parse]
  cases ofChars? text.toList <;> simp

theorem parse_eq_error_iff {text : String} {rejection : InvalidSortOrder} :
    parse text = .error rejection ↔
      rejection = ⟨text⟩ ∧ ∀ order, ¬ Names (trim text.toList) order := by
  simp only [← ofChars?_eq_some_iff, parse]
  cases read : ofChars? text.toList with
  | none => simp [eq_comm]
  | some order => simp

/-- The text of every directive reads back as it, as text and as saved data, which is read like its text.
A text is read as a directive just when it names it once the blanks at its ends are gone. Any other text
is rejected, with all of its blanks. -/
theorem texts_are_read_by_name :
    (∀ order : SortOrder, parse order.text = .ok order ∧
      JsonForm.ofJson? (toJson order) = some order) ∧
    (∀ text : String, (JsonForm.ofJson? (.ofString text) : Option SortOrder) =
      (parse text).toOption) ∧
    (∀ text order, parse text = .ok order ↔ Names (trim text.toList) order) ∧
    ∀ text rejection, parse text = .error rejection ↔
      rejection = ⟨text⟩ ∧ ∀ order, ¬ Names (trim text.toList) order := by
  refine ⟨?_, fun _ => rfl, fun _ _ => parse_eq_ok_iff, fun _ _ => parse_eq_error_iff⟩
  intro order
  refine ⟨parse_text order, ?_⟩
  change (parse order.text).toOption = some order
  rw [parse_text]
  rfl

end ReportColumns.SortOrder
