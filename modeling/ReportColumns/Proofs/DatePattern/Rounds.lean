import Mathlib.Data.List.Nodup
import ReportColumns.Proofs.DatePattern.Parts
/-!
The rounds of a scan.

A round looks at the front of a text that is not empty. It takes the native text of the first rule in
the order of the table that stands there, or one character where no rule does. As long as no native text
is empty every round shortens the text, so the rounds end and cut the text into pieces, in one way only.

In the two date tables a longer token comes before its own beginnings. The first rule that stands at the
front is then the longest one, and a run of one letter is split from its longest token down.
-/

namespace ReportColumns

/-- A rule is the first one, in the order of the table, whose native text stands at the front. -/
def TokenTable.FirstAt (table : TokenTable α) (rule : TokenRule α) (text : List Char) : Prop :=
  ∃ earlier later, table = earlier ++ rule :: later ∧ rule.native <+: text ∧
    ∀ other ∈ earlier, ¬ other.native <+: text

/-- A round at a text: the piece it takes off the front, the segment it gives and the text it leaves. A
rule with an empty native text would take nothing and leave the same text. -/
inductive TokenTable.Round (table : TokenTable α) :
    List Char → List Char → Segment α → List Char → Prop where
  | token {rule : TokenRule α} {text rest : List Char} (given : text ≠ [])
      (first : table.FirstAt rule text) (front : text = rule.native ++ rest) :
      Round table text rule.native (.token rule.output) rest
  | literal {c : Char} {rest : List Char} (missed : ∀ rule ∈ table, ¬ rule.native <+: c :: rest) :
      Round table (c :: rest) [c] (.literal c) rest

inductive TokenTable.Cut (table : TokenTable α) :
    List Char → List (List Char × Segment α) → Prop where
  | done : Cut table [] []
  | round {text piece rest : List Char} {segment : Segment α}
      {pieces : List (List Char × Segment α)} (round : table.Round text piece segment rest)
      (tail : Cut table rest pieces) : Cut table text ((piece, segment) :: pieces)

/-- The split of a run of one letter in which every token is the longest that the rest of the run has
room for. Letters are kept where not even the shortest has. -/
inductive TokenTable.Greedy (table : TokenTable α) (c : Char) : Nat → List (Segment α) → Prop where
  | done : Greedy table c 0 []
  | token {rule : TokenRule α} {length count : Nat} {segments : List (Segment α)}
      (listed : rule ∈ table) (given : 0 < length) (native : rule.native = List.replicate length c)
      (longest : ∀ other ∈ table, ∀ room, room ≤ length + count →
        other.native = List.replicate room c → room ≤ length)
      (tail : Greedy table c count segments) :
      Greedy table c (length + count) (.token rule.output :: segments)
  | letter {count : Nat} {segments : List (Segment α)}
      (absent : ∀ other ∈ table, ∀ room, 0 < room → room ≤ count + 1 →
        other.native ≠ List.replicate room c)
      (tail : Greedy table c count segments) :
      Greedy table c (count + 1) (.literal c :: segments)

/-- No rule comes after a rule that its native text begins with, unless it is no longer. -/
def TokenTable.LongestFirst (table : TokenTable α) : Prop :=
  table.Pairwise fun earlier later =>
    earlier.native <+: later.native → later.native.length ≤ earlier.native.length

instance (table : TokenTable α) : Decidable table.LongestFirst :=
  inferInstanceAs (Decidable (List.Pairwise _ _))

/-- Families of tokens: each token is a run of one letter, and longer runs come first. -/
structure TokenTable.Families (table : TokenTable α) : Prop where
  given : ∀ rule ∈ table, rule.native ≠ []
  runs : table.OfRuns
  longest_first : table.LongestFirst
  distinct : (table.map TokenRule.native).Nodup

theorem chartTokens_families : chartTokens.Families where
  given := by decide
  runs := chartTokens_ofRuns
  longest_first := by decide
  distinct := by decide

theorem displayTokens_families : displayTokens.Families where
  given := by decide
  runs := displayTokens_ofRuns
  longest_first := by decide
  distinct := by decide

variable {α : Type} {table : TokenTable α} {rule : TokenRule α} {segment : Segment α}
  {text piece rest left right : List Char} {pieces : List (List Char × Segment α)}

section Rounds

variable (given : ∀ rule ∈ table, rule.native ≠ [])

theorem TokenTable.Round.text_eq (round : table.Round text piece segment rest) :
    text = piece ++ rest := by
  cases round with
  | token given first front => exact front
  | literal missed => rfl

include given

theorem ruleAt?_eq_some_iff : table.ruleAt? text = some rule ↔ table.FirstAt rule text := by
  unfold TokenTable.ruleAt? TokenTable.FirstAt
  rw [List.find?_eq_some_iff_append]
  constructor
  · intro ⟨stands, earlier, later, split, before⟩
    refine ⟨earlier, later, split, (TokenRule.matches_iff.mp stands).2, ?_⟩
    intro other listed also
    have some_native : other.native ≠ [] := given other (by simp [split, listed])
    have passed := before other listed
    rw [TokenRule.matches_iff.mpr ⟨some_native, also⟩] at passed
    cases passed
  · intro ⟨earlier, later, split, stands, before⟩
    have some_native : rule.native ≠ [] := given rule (by simp [split])
    refine ⟨TokenRule.matches_iff.mpr ⟨some_native, stands⟩, earlier, later, split, ?_⟩
    intro other listed
    rw [Bool.not_eq_true', Bool.eq_false_iff]
    intro also
    exact before other listed (TokenRule.matches_iff.mp also).2

theorem ruleAt?_eq_none_iff :
    table.ruleAt? text = none ↔ ∀ rule ∈ table, ¬ rule.native <+: text := by
  unfold TokenTable.ruleAt?
  rw [List.find?_eq_none]
  constructor
  · intro missed rule listed stands
    exact missed rule listed (TokenRule.matches_iff.mpr ⟨given rule listed, stands⟩)
  · intro missed rule listed stands
    exact missed rule listed (TokenRule.matches_iff.mp stands).2

theorem TokenTable.Round.shortens (round : table.Round text piece segment rest) :
    rest.length < text.length := by
  cases round with
  | @token rule _ _ _ first front =>
    obtain ⟨earlier, later, split, -, -⟩ := first
    have long : 0 < rule.native.length :=
      List.length_pos_iff.mpr (given rule (by simp [split]))
    rw [front, List.length_append]
    omega
  | literal missed => simp

theorem exists_round (some_text : text ≠ []) : ∃ piece segment rest,
    table.Round text piece segment rest := by
  cases found : table.ruleAt? text with
  | some rule =>
    obtain ⟨-, -, rest, front⟩ := TokenTable.ruleAt?_spec found
    exact ⟨_, _, rest, .token some_text ((ruleAt?_eq_some_iff given).mp found) front⟩
  | none =>
    cases text with
    | nil => exact absurd rfl some_text
    | cons c rest => exact ⟨_, _, rest, .literal ((ruleAt?_eq_none_iff given).mp found)⟩

/-- What a round gives is what the scan gives first, and the scan goes on where the round ends. -/
theorem TokenTable.Round.scan_eq (round : table.Round text piece segment rest) :
    scan table text = segment :: scan table rest := by
  cases round with
  | @token rule _ _ _ first front =>
    rw [scan_of_rule ((ruleAt?_eq_some_iff given).mpr first), front, List.drop_left]
  | literal missed => exact scan_of_none ((ruleAt?_eq_none_iff given).mpr missed)

theorem TokenTable.Round.unique {piece' rest' : List Char} {segment' : Segment α}
    (round : table.Round text piece segment rest) (other : table.Round text piece' segment' rest') :
    piece' = piece ∧ segment' = segment := by
  cases round with
  | @token rule _ _ _ first front =>
    have found := (ruleAt?_eq_some_iff given).mpr first
    cases other with
    | @token rule' _ _ _ first' _ =>
      have same := found.symm.trans ((ruleAt?_eq_some_iff given).mpr first')
      injection same with same
      subst same
      exact ⟨rfl, rfl⟩
    | literal missed =>
      rw [(ruleAt?_eq_none_iff given).mpr missed] at found
      cases found
  | literal missed =>
    have none_found := (ruleAt?_eq_none_iff given).mpr missed
    cases other with
    | token _ first _ =>
      rw [(ruleAt?_eq_some_iff given).mpr first] at none_found
      cases none_found
    | literal _ => exact ⟨rfl, rfl⟩

theorem rounds_end :
    WellFounded fun rest text => ∃ piece segment, table.Round text piece segment rest := by
  apply Subrelation.wf _ (measure List.length).wf
  intro rest text ⟨piece, segment, round⟩
  exact round.shortens given

end Rounds

theorem TokenTable.Cut.flatten_eq (cut : table.Cut text pieces) :
    (pieces.map (·.1)).flatten = text := by
  induction cut with
  | done => rfl
  | round round tail ih => rw [List.map_cons, List.flatten_cons, ih, ← round.text_eq]

section Cuts

variable (given : ∀ rule ∈ table, rule.native ≠ [])
include given

theorem TokenTable.Cut.scan_eq (cut : table.Cut text pieces) :
    scan table text = pieces.map (·.2) := by
  induction cut with
  | done => rfl
  | round round tail ih => rw [round.scan_eq given, ih, List.map_cons]

theorem TokenTable.Cut.unique {others : List (List Char × Segment α)}
    (cut : table.Cut text pieces) (other : table.Cut text others) : others = pieces := by
  induction cut generalizing others with
  | done =>
    cases other with
    | done => rfl
    | round round tail => exact absurd (round.shortens given) (by simp)
  | @round text piece rest segment pieces round tail ih =>
    cases other with
    | done => exact absurd (round.shortens given) (by simp)
    | @round _ piece' rest' segment' _ round' tail' =>
      obtain ⟨rfl, rfl⟩ := round.unique given round'
      have same : rest' = rest :=
        List.append_cancel_left (round'.text_eq.symm.trans round.text_eq)
      subst same
      rw [ih tail']

theorem exists_cut (text : List Char) : ∃ pieces, table.Cut text pieces := by
  -- The induction is on the rounds, each of which leaves a shorter text.
  induction text using (rounds_end given).induction with
  | _ text ih =>
    by_cases empty : text = []
    · exact ⟨[], empty ▸ .done⟩
    · obtain ⟨piece, segment, rest, round⟩ := exists_round given empty
      obtain ⟨pieces, tail⟩ := ih rest ⟨piece, segment, round⟩
      exact ⟨_, .round round tail⟩

end Cuts

theorem TokenTable.LongestFirst.longest (ordered : table.LongestFirst)
    (first : table.FirstAt rule text) {other : TokenRule α} (listed : other ∈ table)
    (stands : other.native <+: text) : other.native.length ≤ rule.native.length := by
  obtain ⟨earlier, later, rfl, front, before⟩ := first
  rcases List.mem_append.mp listed with early | late
  · exact absurd stands (before other early)
  · rcases List.mem_cons.mp late with same | behind
    · rw [same]
    · have pair := (List.pairwise_cons.mp (List.pairwise_append.mp ordered).2.1).1 other behind
      rcases List.prefix_or_prefix_of_prefix front stands with within | within
      · exact pair within
      · exact within.length_le

theorem replicate_prefix {c : Char} {length count : Nat} (room : length ≤ count) :
    List.replicate length c <+: List.replicate count c := by
  rw [List.prefix_replicate_iff, List.length_replicate]
  exact ⟨room, rfl⟩

section Families

variable (families : table.Families) {c : Char} {count : Nat} {segments : List (Segment α)}
include families

theorem found_at_run (found : table.ruleAt? (List.replicate count c) = some rule) :
    rule.native.length ≤ count ∧ rule.native = List.replicate rule.native.length c ∧
      ∀ other ∈ table, ∀ room ≤ count, other.native = List.replicate room c →
        room ≤ rule.native.length := by
  have first := (ruleAt?_eq_some_iff families.given).mp found
  obtain ⟨-, -, -, front, -⟩ := id first
  obtain ⟨fits, native⟩ := List.prefix_replicate_iff.mp front
  refine ⟨fits, native, ?_⟩
  intro other listed room other_fits other_native
  have stands : other.native <+: List.replicate count c := by
    rw [other_native]
    exact replicate_prefix other_fits
  have shorter := families.longest_first.longest first listed stands
  rwa [other_native, List.length_replicate] at shorter

theorem scan_run (greedy : table.Greedy c count segments) :
    scan table (List.replicate count c) = segments := by
  induction greedy with
  | done => rfl
  | @token rule length count segments listed some_length native longest tail ih =>
    have stands : rule.native <+: List.replicate (length + count) c := by
      rw [native]
      exact replicate_prefix (by omega)
    cases found : table.ruleAt? (List.replicate (length + count) c) with
    | none => exact absurd stands ((ruleAt?_eq_none_iff families.given).mp found rule listed)
    | some taken =>
      -- Each of the two is the longest, so they have one length, and no two rules share a native text.
      obtain ⟨taken_listed, -⟩ := TokenTable.ruleAt?_spec found
      obtain ⟨fits, taken_native, taken_longest⟩ := found_at_run families found
      have at_most := longest taken taken_listed _ fits taken_native
      have at_least := taken_longest rule listed length (by omega) native
      have same_length : taken.native.length = length := by omega
      have same : taken = rule := by
        apply List.inj_on_of_nodup_map families.distinct taken_listed listed
        rw [taken_native, native, same_length]
      rw [scan_of_rule found, same_length, same, List.drop_replicate, Nat.add_sub_cancel_left, ih]
  | @letter count segments absent tail ih =>
    have missed : table.ruleAt? (c :: List.replicate count c) = none := by
      rw [ruleAt?_eq_none_iff families.given]
      intro other listed stands
      obtain ⟨room, native⟩ := (List.prefix_replicate_iff (n := count + 1)).mp stands
      have long : 0 < other.native.length := List.length_pos_iff.mpr (families.given other listed)
      exact absent other listed _ long room native
    rw [List.replicate_succ, scan_of_none missed, ih]

theorem TokenTable.Greedy.unique {others : List (Segment α)} (greedy : table.Greedy c count segments)
    (other : table.Greedy c count others) : others = segments :=
  (scan_run families other).symm.trans (scan_run families greedy)

/-- As many of the longest tokens as there is room for come first, and then the rest of the run. -/
theorem TokenTable.Greedy.blocks {length : Nat} (listed : rule ∈ table)
    (native : rule.native = List.replicate length c)
    (longest : ∀ other ∈ table, ∀ room, other.native = List.replicate room c → room ≤ length)
    (tail : table.Greedy c count segments) (blocks : Nat) :
    table.Greedy c (blocks * length + count)
      (List.replicate blocks (.token rule.output) ++ segments) := by
  have some_length : 0 < length := by
    have some_native := families.given rule listed
    rw [native] at some_native
    exact Nat.pos_of_ne_zero fun none => some_native (by rw [none]; rfl)
  -- The blocks are put in front one by one, and the rest of the run stays as it is.
  induction blocks with
  | zero => simpa using tail
  | succ blocks ih =>
    have first := TokenTable.Greedy.token listed some_length native
      (fun other also_listed room _ same => longest other also_listed room same) ih
    have total : (blocks + 1) * length + count = length + (blocks * length + count) := by
      rw [Nat.succ_mul]
      omega
    rw [total, List.replicate_succ, List.cons_append]
    exact first

theorem exists_greedy (c : Char) (count : Nat) : ∃ segments, table.Greedy c count segments := by
  induction count using Nat.strongRecOn with
  | ind count ih =>
    cases count with
    | zero => exact ⟨[], .done⟩
    | succ less =>
      cases found : table.ruleAt? (List.replicate (less + 1) c) with
      | some rule =>
        obtain ⟨listed, some_native, -⟩ := TokenTable.ruleAt?_spec found
        obtain ⟨fits, native, longest⟩ := found_at_run families found
        have long : 0 < rule.native.length := List.length_pos_iff.mpr some_native
        obtain ⟨segments, tail⟩ := ih (less + 1 - rule.native.length) (by omega)
        have whole : rule.native.length + (less + 1 - rule.native.length) = less + 1 := by omega
        rw [← whole] at longest ⊢
        exact ⟨_, .token listed long native longest tail⟩
      | none =>
        obtain ⟨segments, tail⟩ := ih less (by omega)
        refine ⟨_, .letter ?_ tail⟩
        intro other listed length some_length fits same
        apply (ruleAt?_eq_none_iff families.given).mp found other listed
        rw [same]
        exact replicate_prefix fits

theorem scan_around_run (greedy : table.Greedy c count segments) (some_run : 0 < count)
    (before : left.getLast? ≠ some c) (behind : right.head? ≠ some c) :
    scan table (left ++ List.replicate count c ++ right) =
      scan table left ++ segments ++ scan table right := by
  have head : (List.replicate count c).head? = some c := by
    rw [List.head?_replicate, if_neg (by omega)]
  have last : (left ++ List.replicate count c).getLast? = some c := by
    rw [List.getLast?_append, List.getLast?_replicate, if_neg (by omega), Option.some_or]
  have apart_before : table.Parts left (List.replicate count c) :=
    Or.inr (Or.inr (Or.inl (by rwa [head])))
  have apart_behind : table.Parts (left ++ List.replicate count c) right :=
    Or.inr (Or.inr (Or.inl (by rw [last]; exact behind.symm)))
  rw [scan_append families.runs apart_behind, scan_append families.runs apart_before,
    scan_run families greedy]

end Families

/-- The first rule that stands at a text is the longest one that stands there. A run of one letter has
one greedy split, which begins with blocks of the longest token, and it is scanned as that split whatever
is around it. -/
def TokenTable.TakesLongest (table : TokenTable α) : Prop :=
  (∀ text rule, table.FirstAt rule text → ∀ other ∈ table, other.native <+: text →
    other.native.length ≤ rule.native.length) ∧
  (∀ c count, ∃ segments, table.Greedy c count segments ∧
    (∀ others, table.Greedy c count others → others = segments) ∧
    ∀ left right, 0 < count → left.getLast? ≠ some c → right.head? ≠ some c →
      scan table (left ++ List.replicate count c ++ right) =
        scan table left ++ segments ++ scan table right) ∧
  ∀ rule ∈ table, ∀ c length, rule.native = List.replicate length c →
    (∀ other ∈ table, ∀ room, other.native = List.replicate room c → room ≤ length) →
    ∀ blocks count segments, table.Greedy c count segments →
      table.Greedy c (blocks * length + count)
        (List.replicate blocks (.token rule.output) ++ segments)

theorem TokenTable.Families.takesLongest (families : table.Families) : table.TakesLongest := by
  refine ⟨?_, ?_, ?_⟩
  · intro text rule first other listed stands
    exact families.longest_first.longest first listed stands
  · intro c count
    obtain ⟨segments, greedy⟩ := exists_greedy families c count
    refine ⟨segments, greedy, fun others other => greedy.unique families other, ?_⟩
    intro left right some_run before behind
    exact scan_around_run families greedy some_run before behind
  · intro rule listed c length native longest blocks count segments tail
    exact tail.blocks families listed native longest blocks

/-- As long as no native text of a table is empty, the rounds of a scan end on every text, and at every
text that is not empty a round is possible. They cut the text into consecutive pieces, in one way: at the
first rule that stands there the piece is its native text and gives its output, and where no rule stands
it is one character and gives itself. The scan is what the pieces give. The tables of charts and of the
display take the longest token everywhere. -/
theorem scan_cuts_into_longest_tokens :
    (∀ (α : Type) (table : TokenTable α), (∀ rule ∈ table, rule.native ≠ []) →
      (WellFounded fun rest text => ∃ piece segment, table.Round text piece segment rest) ∧
      ∀ text,
        (text ≠ [] → ∃ piece segment rest, table.Round text piece segment rest) ∧
        ∃ pieces, table.Cut text pieces ∧ (∀ others, table.Cut text others → others = pieces) ∧
          (pieces.map (·.1)).flatten = text ∧ scan table text = pieces.map (·.2)) ∧
    chartTokens.TakesLongest ∧ displayTokens.TakesLongest := by
  refine ⟨?_, chartTokens_families.takesLongest, displayTokens_families.takesLongest⟩
  intro α table given
  refine ⟨rounds_end given, fun text => ⟨exists_round given, ?_⟩⟩
  obtain ⟨pieces, cut⟩ := exists_cut given text
  exact ⟨pieces, cut, fun others other => cut.unique given other, cut.flatten_eq, cut.scan_eq given⟩

/-- A table that lists a token before a longer one takes the shorter. Six letters of the day between
letters of the hour are the full name and the padded day. -/
theorem scan_cuts_into_longest_tokens_day_run :
    let table : TokenTable Nat := [⟨['a'], 1⟩, ⟨['a', 'b'], 2⟩]
    (∀ rule ∈ table, rule.native ≠ []) ∧
      (∃ pieces, table.Cut ['x', 'a', 'b'] pieces ∧
        pieces.map (·.2) = [.literal 'x', .token 1, .literal 'b']) ∧
      displayTokens.Greedy 'd' 6 [.token .dayNameFull, .token .day2] ∧
      scan displayTokens ('H' :: List.replicate 6 'd' ++ ['h']) =
        [.token .hour24, .token .dayNameFull, .token .day2, .token .hour12] := by
  intro table
  obtain ⟨any, -, display⟩ := scan_cuts_into_longest_tokens
  have given : ∀ rule ∈ table, rule.native ≠ [] := by decide
  obtain ⟨pieces, cut, -, -, scanned⟩ := ((any Nat table given).2 ['x', 'a', 'b']).2
  obtain ⟨-, runs, blocks⟩ := display
  have day_listed : ⟨['d', 'd'], DatePart.day2⟩ ∈ displayTokens := by decide
  have day_native : ['d', 'd'] = List.replicate 2 'd' := rfl
  have two : displayTokens.Greedy 'd' 2 [.token .day2] :=
    TokenTable.Greedy.token day_listed (by decide) day_native (fun _ _ _ fits _ => fits) .done
  have short : ∀ rule ∈ displayTokens, rule.native.length ≤ 4 := by decide
  have six : displayTokens.Greedy 'd' 6 [.token .dayNameFull, .token .day2] := by
    apply blocks ⟨['d', 'd', 'd', 'd'], DatePart.dayNameFull⟩ (by decide) 'd' 4 rfl _ 1 2 _ two
    intro other listed room same
    have fits := short other listed
    rwa [same, List.length_replicate] at fits
  obtain ⟨segments, -, only, around⟩ := runs 'd' 6
  have scan_around := around ['H'] ['h'] (by decide) (by decide) (by decide)
  rw [← only _ six] at scan_around
  exact ⟨given, ⟨pieces, cut, scanned.symm⟩, six, scan_around⟩

end ReportColumns
