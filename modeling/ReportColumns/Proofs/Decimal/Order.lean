import Mathlib.Data.Nat.Init
import ReportColumns.Proofs.Decimal.Numeral
/-!
Numbers written in the same number of digits, with zeros in front, are ordered as texts the way they are
as numbers. The first digit that differs decides, so no text behind the digits changes the order.
-/

namespace ReportColumns.Decimal

variable {width m n : Nat}

theorem paddedDigits_succ (positive : 0 < width) (n : Nat) :
    paddedDigits (width + 1) n = paddedDigits width (n / 10) ++ [(n % 10).digitChar] := by
  by_cases small : n < 10
  · have alone : digits n = [n.digitChar] := Nat.toDigits_of_lt_base small
    rw [Nat.div_eq_of_lt small, paddedDigits_zero positive, Nat.mod_eq_of_lt small]
    simp [paddedDigits, List.leftpad, alone]
  · have split : digits n = digits (n / 10) ++ [(n % 10).digitChar] :=
      Nat.toDigits_of_base_le (by decide) (by omega)
    simp [paddedDigits, List.leftpad, split]

theorem append_lt_append {left right : List Char} (level : left.length = right.length)
    (less : left < right) (behind after : List Char) : left ++ behind < right ++ after := by
  induction left generalizing right with
  | nil =>
    obtain rfl := List.eq_nil_of_length_eq_zero level.symm
    exact absurd less (List.not_lt_nil _)
  | cons c rest ih =>
    cases right with
    | nil => exact absurd less (List.not_lt_nil _)
    | cons d rest' =>
      rw [List.cons_append, List.cons_append]
      rcases List.cons_lt_cons_iff.mp less with first | ⟨same, later⟩
      · exact List.cons_lt_cons_iff.mpr (Or.inl first)
      · exact List.cons_lt_cons_iff.mpr (Or.inr ⟨same, ih (Nat.succ.inj level) later⟩)

theorem digitChar_lt (less : m < n) (single : n < 10) : m.digitChar < n.digitChar := by
  have each : ∀ n < 10, ∀ m < n, m.digitChar < n.digitChar := by decide
  exact each n single m less

theorem paddedDigits_lt (positive : 0 < width) (less : m < n) (small : n < Nat.pow 10 width) :
    paddedDigits width m < paddedDigits width n := by
  induction width, positive using Nat.le_induction generalizing m n with
  | base =>
    have single : n < 10 := small
    rw [paddedDigits, paddedDigits, digits, digits, Nat.toDigits_of_lt_base single,
      Nat.toDigits_of_lt_base (Nat.lt_trans less single)]
    exact List.cons_lt_cons_iff.mpr (Or.inl (digitChar_lt less single))
  | succ width positive ih =>
    have whole : n < Nat.pow 10 width * 10 := small
    have bound : n / 10 < Nat.pow 10 width := by omega
    rw [paddedDigits_succ positive, paddedDigits_succ positive]
    -- The digits in front of the last one decide, unless they are the same.
    rcases Nat.lt_or_ge (m / 10) (n / 10) with front | level
    · apply append_lt_append _ (ih front bound)
      rw [length_paddedDigits positive (Nat.lt_trans front bound), length_paddedDigits positive bound]
    · have same : m / 10 = n / 10 := by omega
      rw [same]
      apply List.append_left_lt
      exact List.cons_lt_cons_iff.mpr
        (Or.inl (digitChar_lt (by omega) (Nat.mod_lt _ (by decide))))

end ReportColumns.Decimal
