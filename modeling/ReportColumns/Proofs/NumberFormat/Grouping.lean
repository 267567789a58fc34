import ReportColumns.NumberFormat.Glyph
/-!
Digits in groups: blocks of three from the right with the group separator between them. Only the first
block may be shorter, and it is never empty.
-/

namespace ReportColumns

open Decimal

/-- Blocks that give some digits when they are joined, all of three digits but the first, which has at
least one. -/
structure InThrees (ds : List Char) (blocks : List (List Char)) : Prop where
  joined : blocks.flatten = ds
  first : ∀ block ∈ blocks.head?, 0 < block.length ∧ block.length ≤ 3
  full : ∀ block ∈ blocks.tail, block.length = 3

def Grouped (separator ds text : List Char) : Prop :=
  ∃ blocks, InThrees ds blocks ∧ text = separator.intercalate blocks

theorem length_flatten_full {blocks : List (List Char)}
    (full : ∀ block ∈ blocks, block.length = 3) : blocks.flatten.length = 3 * blocks.length := by
  induction blocks with
  | nil => rfl
  | cons block rest ih =>
    have three := full block (by simp)
    have others := ih fun b found => full b (by simp [found])
    rw [List.flatten_cons, List.length_append, three, others, List.length_cons]
    omega

theorem InThrees.length_eq {ds head : List Char} {tail : List (List Char)}
    (valid : InThrees ds (head :: tail)) : ds.length = head.length + 3 * tail.length := by
  have full : ∀ block ∈ tail, block.length = 3 := valid.full
  rw [← valid.joined, List.flatten_cons, List.length_append, length_flatten_full full]

theorem groupThousands_cons (c : Char) (rest : List Char) :
    groupThousands (c :: rest) =
      .char c :: ((if 0 < rest.length ∧ rest.length % 3 = 0 then [.groupMark] else []) ++
        groupThousands rest) := by
  unfold groupThousands
  rw [List.length_cons, groupFrom, Nat.add_sub_cancel]
  simp only [Nat.lt_add_left_iff_pos, List.cons_append]

theorem groupThousands_grouped (locale : Locale) (ds : List Char) :
    Grouped locale.groupSeparator.toList ds (writeGlyphs locale (groupThousands ds)) := by
  induction ds with
  | nil => exact ⟨[], ⟨rfl, by simp, by simp⟩, rfl⟩
  | cons c rest ih =>
    obtain ⟨blocks, valid, written⟩ := ih
    rw [groupThousands_cons]
    cases blocks with
    | nil =>
      have none : rest = [] := valid.joined.symm
      subst none
      exact ⟨[[c]], ⟨rfl, by simp, by simp⟩, rfl⟩
    | cons head tail =>
      have total := valid.length_eq
      obtain ⟨given, short⟩ := valid.first head (by simp)
      have full : ∀ block ∈ tail, block.length = 3 := valid.full
      by_cases complete : rest.length % 3 = 0
      -- The digits so far fill their blocks, so the next one starts a block of its own.
      · have three : head.length = 3 := by omega
        refine ⟨[c] :: head :: tail, ⟨?_, by simp, ?_⟩, ?_⟩
        · rw [List.flatten_cons, valid.joined]
          rfl
        · simpa [three] using full
        · rw [if_pos ⟨by omega, complete⟩, List.intercalate_cons_cons, ← written]
          rfl
      · refine ⟨(c :: head) :: tail, ⟨?_, ?_, full⟩, ?_⟩
        · rw [List.flatten_cons, List.cons_append, ← List.flatten_cons, valid.joined]
        · intro block found
          obtain rfl : c :: head = block := by simpa using found
          simp only [List.length_cons]
          omega
        · rw [if_neg fun both => complete both.2, List.intercalate_cons_cons_left, ← written]
          rfl

end ReportColumns
