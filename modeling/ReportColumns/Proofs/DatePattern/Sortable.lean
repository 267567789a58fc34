import Mathlib.Algebra.Ring.Nat
import Mathlib.Data.List.Forall2
import ReportColumns.DatePattern.Render
import ReportColumns.Proofs.Calendar.Moments
import ReportColumns.Proofs.Decimal.Order
/-!
A date pattern whose texts sort by time.

Numbers that are written in places of fixed width, from the most significant to the least, compare as
texts the way the numbers do: the first number that differs decides, and what stands between the places is
the same in both texts. The pattern here writes year, month, day, hour, minute, second and millisecond in
this way, so its texts compare the way the date-times do down to the millisecond.
-/

namespace ReportColumns

open Decimal

structure Place where
  width : Nat
  mark : List Char

def Place.Takes (place : Place) (n : Nat) : Prop := 0 < place.width ∧ n < Nat.pow 10 place.width

def writeInto : List Place → List Nat → List Char
  | place :: places, n :: rest => paddedDigits place.width n ++ (place.mark ++ writeInto places rest)
  | _, _ => []

theorem length_writeInto {places : List Place} {numbers : List Nat}
    (fit : List.Forall₂ Place.Takes places numbers) :
    (writeInto places numbers).length =
      (places.map fun place => place.width + place.mark.length).sum := by
  induction fit with
  | nil => rfl
  | @cons place n places rest taken later ih =>
    rw [writeInto, List.length_append, List.length_append, ih, List.map_cons, List.sum_cons,
      length_paddedDigits taken.1 taken.2]
    omega

theorem writeInto_lt {places : List Place} {numbers numbers' : List Nat}
    (fit : List.Forall₂ Place.Takes places numbers) (fit' : List.Forall₂ Place.Takes places numbers')
    (less : numbers < numbers') : writeInto places numbers < writeInto places numbers' := by
  induction fit generalizing numbers' with
  | nil =>
    cases fit'
    exact absurd less (List.not_lt_nil _)
  | @cons place n places rest taken later ih =>
    cases fit' with
    | @cons _ n' _ rest' taken' later' =>
      rw [writeInto, writeInto]
      rcases List.cons_lt_cons_iff.mp less with first | ⟨rfl, further⟩
      · apply append_lt_append _ (paddedDigits_lt taken.1 first taken'.2)
        rw [length_paddedDigits taken.1 taken.2, length_paddedDigits taken'.1 taken'.2]
      · exact List.append_left_lt (List.append_left_lt (ih later' further))

def sortablePattern : String := "yyyy-MM-dd HH:mm:ss.FFF"

def sortablePlaces : List Place :=
  [⟨4, ['-']⟩, ⟨2, ['-']⟩, ⟨2, [' ']⟩, ⟨2, [':']⟩, ⟨2, [':']⟩, ⟨2, ['.']⟩, ⟨3, []⟩]

namespace DateTime

variable {v w moment : DateTime}

def shownParts (moment : DateTime) : List Nat :=
  [moment.date.year.toNat, moment.date.month, moment.date.day, moment.time.hour, moment.time.minute,
    moment.time.second, moment.time.millisecond]

def sortableText (moment : DateTime) : String :=
  String.ofList (writeInto sortablePlaces moment.shownParts)

theorem shownParts_truncated (moment : DateTime) : moment.truncated.shownParts = moment.shownParts := by
  have same : moment.time.truncated.millisecond = moment.time.millisecond := by
    unfold TimeOfDay.millisecond TimeOfDay.truncated
    dsimp only
    omega
  unfold shownParts
  rw [truncated, same]
  rfl

structure FourDigitYear (moment : DateTime) : Prop where
  not_negative : 0 ≤ moment.date.year
  short : moment.date.year ≤ 9999
  ordinary : moment.time.isLeapSecond = false

theorem shownParts_fit (plain : moment.FourDigitYear) :
    List.Forall₂ Place.Takes sortablePlaces moment.shownParts := by
  have month := moment.date.month_in_range
  have day := moment.date.day_in_range
  have month_length := Date.daysInMonth_bounds moment.date.year moment.date.month
  have hour := moment.time.hour_lt
  have minute := moment.time.minute_lt
  have second := moment.time.second_lt
  have two (n : Nat) (small : n < 100) (mark : List Char) : (Place.mk 2 mark).Takes n :=
    ⟨Nat.succ_pos 1, small⟩
  have year : (Place.mk 4 ['-']).Takes moment.date.year.toNat :=
    ⟨by decide, show _ < 10000 by have bound := plain.short; omega⟩
  have millisecond : (Place.mk 3 []).Takes moment.time.millisecond :=
    ⟨by decide, Nat.mod_lt _ (by decide)⟩
  exact .cons year <| .cons (two _ (by omega) _) <| .cons (two _ (by omega) _) <|
    .cons (two _ (by omega) _) <| .cons (two _ (by omega) _) <| .cons (two _ (by omega) _) <|
    .cons millisecond .nil

theorem formatDateTime_sortable (locale : Locale) (plain : moment.FourDigitYear) :
    formatDateTime moment sortablePattern locale = .ok moment.sortableText := by
  have cut : scan displayTokens sortablePattern.toList =
      [.token .year4, .literal '-', .token .month2, .literal '-', .token .day2, .literal ' ',
        .token .hour24Padded, .literal ':', .token .minute2, .literal ':', .token .second2,
        .literal '.', .token .millisecond] := by
    decide +kernel
  have known : isUnknownShorthand sortablePattern.toList = false := by decide +kernel
  have own : expandShorthand locale sortablePattern.toList = sortablePattern.toList := rfl
  have year : yearChars moment.date.year = paddedDigits 4 moment.date.year.toNat := by
    have not_negative := plain.not_negative
    have size : moment.date.year.natAbs = moment.date.year.toNat := by omega
    rw [yearChars, if_neg (Int.not_lt.mpr not_negative), if_neg (Int.not_lt.mpr plain.short), size]
    rfl
  rw [formatDateTime, known, own, displayPattern, cut, sortableText, shownParts, sortablePlaces,
    writeInto, ← year]
  rfl

theorem length_sortableText (plain : moment.FourDigitYear) : moment.sortableText.length = 23 := by
  rw [sortableText, String.length_ofList, length_writeInto (shownParts_fit plain)]
  rfl

/-- The earlier of two date-times that differ down to the millisecond shows the smaller number in the first
part that differs. -/
theorem shownParts_lt (v_plain : v.FourDigitYear) (w_plain : w.FourDigitYear)
    (before : v.truncated.Before w.truncated) : v.shownParts < w.shownParts := by
  have v_nanosecond := TimeOfDay.not_leap_iff.mp v_plain.ordinary
  have w_nanosecond := TimeOfDay.not_leap_iff.mp w_plain.ordinary
  have v_year := v_plain.not_negative
  unfold nanosPerSecond at v_nanosecond w_nanosecond
  unfold shownParts TimeOfDay.millisecond
  simp only [List.cons_lt_cons_iff, List.not_lt_nil, and_false, or_false]
  unfold Before Date.Before TimeOfDay.Before at before
  dsimp only [truncated, TimeOfDay.truncated] at before
  rcases before with dates | ⟨same, times⟩
  · omega
  · rw [same]
    omega

theorem sortableText_lt (v_plain : v.FourDigitYear) (w_plain : w.FourDigitYear)
    (before : v.truncated.Before w.truncated) : v.sortableText < w.sortableText := by
  have texts := writeInto_lt (shownParts_fit v_plain) (shownParts_fit w_plain)
    (shownParts_lt v_plain w_plain before)
  change v.sortableText.toList < w.sortableText.toList
  simpa only [sortableText, String.toList_ofList] using texts

theorem sortableText_of_truncated (same : v.truncated = w.truncated) :
    v.sortableText = w.sortableText := by
  rw [sortableText, sortableText, ← shownParts_truncated v, same, shownParts_truncated]

theorem sortableText_order (v_plain : v.FourDigitYear) (w_plain : w.FourDigitYear) (day : Int) :
    (v.sortableText < w.sortableText ∧ v.truncated.nanosSince day < w.truncated.nanosSince day) ∨
      v.truncated = w.truncated ∨
      w.sortableText < v.sortableText ∧ w.truncated.nanosSince day < v.truncated.nanosSince day := by
  rcases v.truncated.before_trichotomy w.truncated with before | same | after
  · left
    exact ⟨sortableText_lt v_plain w_plain before,
      nanosSince_lt (TimeOfDay.truncated_ordinary v_plain.ordinary) before day⟩
  · exact Or.inr (Or.inl same)
  · right
    right
    exact ⟨sortableText_lt w_plain v_plain after,
      nanosSince_lt (TimeOfDay.truncated_ordinary w_plain.ordinary) after day⟩

end DateTime

theorem compare_of_same_order {text text' : String} {time time' : Int}
    (order : text < text' ∧ time < time' ∨ text = text' ∧ time = time' ∨
      text' < text ∧ time' < time) : compare text text' = compare time time' := by
  rcases order with ⟨texts, times⟩ | ⟨rfl, rfl⟩ | ⟨texts, times⟩
  · rw [Int.compare_eq_lt.mpr times]
    exact compareOfLessAndEq_eq_lt.mpr texts
  · rw [Std.compare_self, Std.compare_self]
  · have lower : compare text' text = .lt := compareOfLessAndEq_eq_lt.mpr texts
    rw [Int.compare_eq_gt.mpr times]
    exact Std.OrientedCmp.gt_iff_lt.mpr lower

/-- Two date-times in years of four digits, without leap seconds, and any locale.

* The sortable pattern is taken for both and writes 23 characters.
* The texts compare, character by character, the way the time compares that has passed up to the
  date-times, both taken down to the whole millisecond, from whatever day it is counted.
* Equal texts are those of date-times that are the same down to the millisecond. -/
theorem sortable_texts_are_faithful (locale : Locale) (v w : DateTime) (v_plain : v.FourDigitYear)
    (w_plain : w.FourDigitYear) :
    ∃ text text', formatDateTime v "yyyy-MM-dd HH:mm:ss.FFF" locale = .ok text ∧
      formatDateTime w "yyyy-MM-dd HH:mm:ss.FFF" locale = .ok text' ∧
      text.length = 23 ∧ text'.length = 23 ∧
      (∀ day, compare text text' =
        compare (v.truncated.nanosSince day) (w.truncated.nanosSince day)) ∧
      (text = text' ↔ v.truncated = w.truncated) := by
  refine ⟨v.sortableText, w.sortableText, v.formatDateTime_sortable locale v_plain,
    w.formatDateTime_sortable locale w_plain, v.length_sortableText v_plain,
    w.length_sortableText w_plain, ?_, ?_, DateTime.sortableText_of_truncated⟩
  · intro day
    apply compare_of_same_order
    rcases DateTime.sortableText_order v_plain w_plain day with earlier | same | later
    · exact Or.inl earlier
    · exact Or.inr (Or.inl ⟨DateTime.sortableText_of_truncated same, by rw [same]⟩)
    · exact Or.inr (Or.inr later)
  · intro equal
    rcases DateTime.sortableText_order v_plain w_plain 0 with ⟨texts, -⟩ | same | ⟨texts, -⟩
    · rw [equal] at texts
      exact absurd texts (String.lt_irrefl _)
    · exact same
    · rw [equal] at texts
      exact absurd texts (String.lt_irrefl _)

theorem sortable_texts_are_faithful_new_year :
    let slashes : Locale :=
      ⟨"", "d/M/y", "d", "t", "t", "FFF", ",", ".", "€", .after, "am", "pm"⟩
    let old : DateTime := ⟨⟨2000, 12, 31, by decide, by decide, by decide⟩,
      ⟨23, 59, 59, 999999999, by decide, by decide, by decide, by decide +kernel, fun _ => rfl⟩⟩
    let new : DateTime := ⟨⟨2001, 1, 1, by decide, by decide, by decide⟩, .midnight⟩
    old.FourDigitYear ∧ new.FourDigitYear ∧
      ∃ text text', formatDateTime old "yyyy-MM-dd HH:mm:ss.FFF" slashes = .ok text ∧
        formatDateTime new "yyyy-MM-dd HH:mm:ss.FFF" slashes = .ok text' ∧
        text.length = 23 ∧ compare text text' = .lt ∧ text ≠ text' := by
  intro slashes old new
  have old_plain : old.FourDigitYear := ⟨by decide, by decide, by decide⟩
  have new_plain : new.FourDigitYear := ⟨by decide, by decide, by decide⟩
  obtain ⟨text, text', shown, shown', length, -, order, same⟩ :=
    sortable_texts_are_faithful slashes old new old_plain new_plain
  refine ⟨old_plain, new_plain, text, text', shown, shown', length, ?_, ?_⟩
  · rw [order 0]
    decide +kernel
  · rw [Ne, same]
    decide +kernel

end ReportColumns
