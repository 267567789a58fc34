import ReportColumns.NumberFormat.Amount
/-!
Canonical numerals: no needless zero at the front of the digits before the point, and no more digits
after it than asked for. Every amount that a format scales and rounds has a canonical numeral.
-/

namespace ReportColumns.Decimal

theorem digits_zero : digits 0 = ['0'] := rfl

theorem digits_not_empty (n : Nat) : digits n ≠ [] := Nat.toDigits_ne_nil

theorem digits_are_digits {n : Nat} {c : Char} (found : c ∈ digits n) : c.isDigit :=
  Nat.isDigit_of_mem_toDigits (by decide) (by decide) found

theorem digits_first_not_zero (n : Nat) (positive : 0 < n) :
    ∃ first rest, digits n = first :: rest ∧ first ≠ '0' := by
  induction n using Nat.strongRecOn with
  | ind n ih =>
    by_cases small : n < 10
    · refine ⟨n.digitChar, [], Nat.toDigits_of_lt_base small, fun zero => ?_⟩
      have := Nat.digitChar_eq_zero.mp zero
      omega
    · obtain ⟨first, rest, front, lead⟩ := ih (n / 10) (by omega) (by omega)
      refine ⟨first, rest ++ [(n % 10).digitChar], ?_, lead⟩
      rw [digits, Nat.toDigits_of_base_le (by decide) (by omega), ← digits, front]
      rfl

theorem dropWhile_zero_digits (n : Nat) :
    (digits n).dropWhile (· == '0') = if n = 0 then [] else digits n := by
  by_cases zero : n = 0
  · simp [zero, digits_zero]
  · obtain ⟨first, rest, front, lead⟩ := digits_first_not_zero n (by omega)
    rw [if_neg zero, front, List.dropWhile_cons_of_neg (by simpa using lead)]

theorem length_digits_le {n width : Nat} (positive : 0 < width) (small : n < Nat.pow 10 width) :
    (digits n).length ≤ width :=
  (Nat.length_toDigits_le_iff (by decide) positive).mpr small

theorem ofDigits_paddedDigits (width n : Nat) : ofDigits (paddedDigits width n) = n := by
  unfold paddedDigits List.leftpad ofDigits
  rw [Nat.ofDigitChars_append, Nat.ofDigitChars_replicate_zero]
  exact ofDigits_digits n

theorem paddedDigits_are_digits {width n : Nat} {c : Char}
    (found : c ∈ paddedDigits width n) : c.isDigit := by
  rcases List.mem_append.mp found with pad | digit
  · rw [List.eq_of_mem_replicate pad]
    rfl
  · exact digits_are_digits digit

theorem length_paddedDigits {width n : Nat} (positive : 0 < width)
    (small : n < Nat.pow 10 width) : (paddedDigits width n).length = width := by
  have short := length_digits_le positive small
  rw [paddedDigits, List.length_leftpad]
  omega

theorem paddedDigits_zero {places : Nat} (some_place : 0 < places) :
    paddedDigits places 0 = List.replicate places '0' := by
  obtain ⟨less, rfl⟩ : ∃ less, places = less + 1 := ⟨places - 1, by omega⟩
  rw [paddedDigits, digits_zero, List.leftpad, List.replicate_succ']
  rfl

theorem leftpad_of_length_le {width : Nat} {text : List Char} (long : width ≤ text.length) :
    text.leftpad width '0' = text := by
  have none : width - text.length = 0 := by omega
  simp [List.leftpad, none]

theorem leftpad_max_one {text : List Char} (given : text ≠ []) (width : Nat) :
    text.leftpad (max width 1) '0' = text.leftpad width '0' := by
  have long : 0 < text.length := List.length_pos_iff.mpr given
  have same : max width 1 - text.length = width - text.length := by omega
  simp [List.leftpad, same]

structure Numeral.Canonical (n : Numeral) (places : Nat) : Prop where
  whole : n.whole = ['0'] ∨ ∃ first rest, n.whole = first :: rest ∧ first ≠ '0'
  fraction : n.fraction.length ≤ places

theorem digits_canonical (n : Nat) :
    digits n = ['0'] ∨ ∃ first rest, digits n = first :: rest ∧ first ≠ '0' := by
  by_cases zero : n = 0
  · exact Or.inl (by rw [zero, digits_zero])
  · exact Or.inr (digits_first_not_zero n (by omega))

theorem ofInt_canonical (n : Int) (places : Nat) : (Numeral.ofInt n places).Canonical places :=
  ⟨digits_canonical n.natAbs, by simp [Numeral.ofInt]⟩

theorem ofPlaces_canonical (negative : Bool) (coefficient places : Nat) :
    (Numeral.ofPlaces negative coefficient places).Canonical places := by
  refine ⟨digits_canonical _, ?_⟩
  unfold Numeral.ofPlaces
  dsimp only
  split
  · exact Nat.zero_le _
  · have below : coefficient % Nat.pow 10 places < Nat.pow 10 places :=
      Nat.mod_lt _ (Nat.pow_pos (by decide))
    exact Nat.le_of_eq (length_paddedDigits (by omega) below)

theorem fixedNumeral_canonical (x : Float) (places : Nat) :
    (fixedNumeral x places).Canonical places := by
  unfold fixedNumeral
  split
  · exact ofPlaces_canonical ..
  · exact ⟨Or.inr ⟨'i', ['n', 'f'], rfl, by decide⟩, Nat.zero_le _⟩
  · exact ⟨Or.inr ⟨'N', ['a', 'N'], rfl, by decide⟩, Nat.zero_le _⟩

end ReportColumns.Decimal

namespace ReportColumns.Amount

open Decimal

theorem scaledNumeral_canonical (amount : Amount) (percents thousands places : Nat) :
    (amount.scaledNumeral percents thousands places).Canonical places := by
  unfold scaledNumeral
  split
  · exact ofInt_canonical ..
  · exact fixedNumeral_canonical ..

end ReportColumns.Amount
