/-!
Comparison of texts that ignores the case of the letters A to Z. Every other character, accented
letters included, has to be the same on both sides. What is said of all letters or digits can be checked
on the ASCII characters one by one.
-/

namespace ReportColumns.Text

def lowerLetters (text : List Char) : List Char := text.map Char.toLower

def sameIgnoringCase (left right : List Char) : Bool := lowerLetters left == lowerLetters right

theorem sameIgnoringCase_iff {left right : List Char} :
    sameIgnoringCase left right = true ↔ lowerLetters left = lowerLetters right := by
  simp [sameIgnoringCase]

theorem sameIgnoringCase_refl (text : List Char) : sameIgnoringCase text text = true := by
  simp [sameIgnoringCase]

theorem sameIgnoringCase_comm (left right : List Char) :
    sameIgnoringCase left right = sameIgnoringCase right left := by
  rw [sameIgnoringCase, sameIgnoringCase, BEq.comm]

theorem sameIgnoringCase_congr {left right : List Char} (same : sameIgnoringCase left right = true)
    (other : List Char) : sameIgnoringCase left other = sameIgnoringCase right other := by
  rw [sameIgnoringCase, sameIgnoringCase, sameIgnoringCase_iff.mp same]

theorem isEmpty_of_sameIgnoringCase {left right : List Char}
    (same : sameIgnoringCase left right = true) : left.isEmpty = right.isEmpty := by
  simpa [lowerLetters] using congrArg List.isEmpty (sameIgnoringCase_iff.mp same)

theorem ascii_of_isAlpha {c : Char} (alphabetic : c.isAlpha = true) : c.toNat < 128 := by
  have bound : c.val.toNat ≤ 122 := by
    rcases Bool.or_eq_true_iff.mp alphabetic with upper | lower
    · have last : c.val.toNat ≤ 90 := UInt32.le_iff_toNat_le.mp (of_decide_eq_true upper).2
      omega
    · obtain ⟨-, last⟩ := Bool.and_eq_true_iff.mp lower
      exact UInt32.le_iff_toNat_le.mp (of_decide_eq_true last)
  exact Nat.lt_of_le_of_lt bound (by decide)

theorem ascii_of_isDigit {c : Char} (digit : c.isDigit = true) : c.toNat < 128 := by
  have bound : c.val.toNat ≤ 57 :=
    UInt32.le_iff_toNat_le.mp (of_decide_eq_true (Bool.and_eq_true_iff.mp digit).2)
  exact Nat.lt_of_le_of_lt bound (by decide)

theorem ascii_induction {motive : Char → Prop} (each : ∀ code < 128, motive (Char.ofNat code))
    {c : Char} (ascii : c.toNat < 128) : motive c := by
  simpa using each c.toNat ascii

theorem toLower_of_not_ascii {c : Char} (other : ¬ c.toNat < 128) : c.toLower = c := by
  unfold Char.toLower
  rw [dif_neg]
  rintro ⟨-, last⟩
  have bound : c.val.toNat ≤ 90 := UInt32.le_iff_toNat_le.mp last
  exact other (Nat.lt_of_le_of_lt bound (by decide))

theorem toLower_induction {motive : Char → Char → Prop} (same : ∀ c, c.toLower = c → motive c c)
    (each : ∀ code < 128, motive (Char.ofNat code) (Char.ofNat code).toLower) (c : Char) :
    motive c c.toLower := by
  by_cases ascii : c.toNat < 128
  · exact ascii_induction (motive := fun c => motive c c.toLower) each ascii
  · have kept := toLower_of_not_ascii ascii
    rw [kept]
    exact same c kept

end ReportColumns.Text
