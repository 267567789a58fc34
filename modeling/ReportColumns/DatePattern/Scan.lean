/-!
Scanning a text against a table of tokens.

At each position the first rule of the table whose native text stands there gives a token, and a
character at which no rule matches is kept as it is. A table that lists the longer of two rules first
therefore takes the longest match. A rule with an empty native text never matches.
-/

namespace ReportColumns

structure TokenRule (α : Type) where
  native : List Char
  output : α
  deriving DecidableEq, Repr

abbrev TokenTable (α : Type) := List (TokenRule α)

inductive Segment (α : Type) where
  | token (output : α)
  | literal (c : Char)
  deriving DecidableEq, Repr

def TokenRule.matches (rule : TokenRule α) (text : List Char) : Bool :=
  !rule.native.isEmpty && rule.native.isPrefixOf text

def TokenTable.ruleAt? (table : TokenTable α) (text : List Char) : Option (TokenRule α) :=
  table.find? (·.matches text)

/-- Scans what is left of a text after skipping the characters of a token already taken. -/
def scanFrom (table : TokenTable α) : Nat → List Char → List (Segment α)
  | _, [] => []
  | skip + 1, _ :: rest => scanFrom table skip rest
  | 0, c :: rest =>
    match table.ruleAt? (c :: rest) with
    | some rule => .token rule.output :: scanFrom table (rule.native.length - 1) rest
    | none => .literal c :: scanFrom table 0 rest

def scan (table : TokenTable α) (text : List Char) : List (Segment α) := scanFrom table 0 text

theorem scanFrom_eq_scan_drop (table : TokenTable α) (skip : Nat) (text : List Char) :
    scanFrom table skip text = scan table (text.drop skip) := by
  induction skip generalizing text with
  | zero => rfl
  | succ skip ih =>
    cases text with
    | nil => simp [scan, scanFrom]
    | cons c rest => simpa [scanFrom] using ih rest

end ReportColumns
