/-!
Sets of characters, written as closed ranges of code points in ascending order.
-/

namespace ReportColumns.Text

def inRanges (ranges : List (Nat × Nat)) (c : Char) : Bool :=
  match ranges.find? fun range => c.toNat ≤ range.2 with
  | some range => range.1 ≤ c.toNat
  | none => false

end ReportColumns.Text
