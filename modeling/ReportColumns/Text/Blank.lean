import ReportColumns.Text.Ranges
/-!
Blank characters and trimming.

A character is blank when it has the Unicode property White_Space. The property holds of twenty-five
code points and is stable, so it is written out here as ranges.
-/

namespace ReportColumns.Text

/-- The code points with the property White_Space, as closed ranges in ascending order. -/
def blankRanges : List (Nat × Nat) :=
  [(0x09, 0x0D), (0x20, 0x20), (0x85, 0x85), (0xA0, 0xA0), (0x1680, 0x1680), (0x2000, 0x200A),
    (0x2028, 0x2029), (0x202F, 0x202F), (0x205F, 0x205F), (0x3000, 0x3000)]

def isBlank (c : Char) : Bool := inRanges blankRanges c

def trimStart (text : List Char) : List Char := text.dropWhile isBlank

def trimEnd (text : List Char) : List Char := (text.reverse.dropWhile isBlank).reverse

def trim (text : List Char) : List Char := trimEnd (trimStart text)

theorem trimStart_of_head {text : List Char} (solid : ∀ c ∈ text.head?, isBlank c = false) :
    trimStart text = text := by
  cases text with
  | nil => rfl
  | cons c rest => simp [trimStart, solid c (by simp)]

theorem trimEnd_of_getLast {text : List Char} (solid : ∀ c ∈ text.getLast?, isBlank c = false) :
    trimEnd text = text := by
  have head : trimStart text.reverse = text.reverse :=
    trimStart_of_head (by simpa [List.head?_reverse] using solid)
  rw [trimEnd, show text.reverse.dropWhile isBlank = text.reverse from head, List.reverse_reverse]

theorem trim_of_ends {text : List Char} (first : ∀ c ∈ text.head?, isBlank c = false)
    (last : ∀ c ∈ text.getLast?, isBlank c = false) : trim text = text := by
  rw [trim, trimStart_of_head first, trimEnd_of_getLast last]

theorem trim_blank_append {front : List Char} (blank : ∀ c ∈ front, isBlank c)
    (text : List Char) : trim (front ++ text) = trim text := by
  rw [trim, trim, trimStart, trimStart, List.dropWhile_append_of_pos blank]

theorem trim_append_blank {back : List Char} (blank : ∀ c ∈ back, isBlank c) (text : List Char) :
    trim (text ++ back) = trim text := by
  have behind (start : List Char) : trimEnd (start ++ back) = trimEnd start := by
    rw [trimEnd, trimEnd, List.reverse_append, List.dropWhile_append_of_pos (by simpa using blank)]
  rw [trim, trim, trimStart, trimStart, List.dropWhile_append]
  split
  · rename_i nothing
    rw [← List.append_nil back, List.dropWhile_append_of_pos blank, List.isEmpty_iff.mp nothing]
    rfl
  · exact behind _

theorem trim_map {f : Char → Char} (keeps : ∀ c, isBlank (f c) = isBlank c) (text : List Char) :
    trim (text.map f) = (trim text).map f := by
  have same : isBlank ∘ f = isBlank := funext keeps
  simp only [trim, trimStart, trimEnd, List.dropWhile_map, same, ← List.map_reverse]

end ReportColumns.Text
