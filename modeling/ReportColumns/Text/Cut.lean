/-!
Cutting a text at a separator character: the part before its first occurrence, and both parts
around it.
-/

namespace ReportColumns.Text

def before (separator : Char) (text : List Char) : List Char := text.takeWhile (· != separator)

theorem before_append_separator (separator : Char) (text rest : List Char) :
    before separator (text ++ separator :: rest) = before separator text := by
  induction text with
  | nil => simp [before]
  | cons c text ih =>
    unfold before at ih ⊢
    by_cases same : c = separator <;> simp [same, ih]

theorem before_append_left {separator : Char} {front : List Char} (absent : separator ∉ front)
    (text : List Char) : before separator (front ++ text) = front ++ before separator text := by
  apply List.takeWhile_append_of_pos
  intro c found
  exact bne_iff_ne.mpr fun same => absent (same ▸ found)

theorem before_append_right {separator : Char} {back : List Char} (absent : separator ∉ back)
    (text : List Char) : before separator (text ++ back) = before separator text ∨
      before separator (text ++ back) = before separator text ++ back := by
  induction text with
  | nil =>
    right
    have whole := before_append_left absent []
    simpa [before] using whole
  | cons c text ih =>
    unfold before at ih ⊢
    by_cases same : c = separator
    · simp [same]
    · simpa [same] using ih

theorem before_map {separator : Char} {f : Char → Char}
    (keeps : ∀ c, f c = separator ↔ c = separator) (text : List Char) :
    before separator (text.map f) = (before separator text).map f := by
  have same : (· != separator) ∘ f = (· != separator) := by
    funext c
    rw [Bool.eq_iff_iff]
    simp [keeps]
  rw [before, List.takeWhile_map, same]
  rfl

def cut? (separator : Char) : List Char → Option (List Char × List Char)
  | [] => none
  | c :: rest =>
    if c = separator then some ([], rest)
    else (cut? separator rest).map fun sides => (c :: sides.1, sides.2)

theorem cut?_eq_some {separator : Char} {text left right : List Char}
    (found : cut? separator text = some (left, right)) :
    text = left ++ separator :: right ∧ separator ∉ left := by
  induction text generalizing left with
  | nil => simp [cut?] at found
  | cons c rest ih =>
    simp only [cut?] at found
    split at found
    · rename_i same
      simp only [Option.some.injEq, Prod.mk.injEq] at found
      obtain ⟨rfl, rfl⟩ := found
      simp [same]
    · rename_i differs
      obtain ⟨⟨left', right'⟩, inner, sides⟩ := Option.map_eq_some_iff.1 found
      simp only [Prod.mk.injEq] at sides
      obtain ⟨rfl, rfl⟩ := sides
      obtain ⟨joined, absent⟩ := ih inner
      exact ⟨by rw [joined]; rfl, by simp [absent, Ne.symm differs]⟩

theorem cut?_append {separator : Char} {left : List Char} (absent : separator ∉ left)
    (right : List Char) : cut? separator (left ++ separator :: right) = some (left, right) := by
  induction left with
  | nil => simp [cut?]
  | cons c rest ih =>
    simp only [List.mem_cons, not_or] at absent
    simp [cut?, Ne.symm absent.1, ih absent.2]

end ReportColumns.Text
