import Mathlib.Data.List.Nodup
import ReportColumns.Proofs.Decimal.Order
import ReportColumns.Proofs.Element.Access
/-!
Sort keys of enumerated values.

A sorted element over an enumeration that is ordered by position writes the last position of a value in
six digits in front of its display value. As texts, such keys are in the order of the positions: the
digits differ whenever the positions do, and they stand at the front.
-/

namespace ReportColumns

open Decimal

namespace EnumDefinition

variable {definition : EnumDefinition} {kind kind' : KeyKind} {key key' : String}
  {value value' : EnumValue} {position position' : Nat}

def LastAt (definition : EnumDefinition) (value : EnumValue) (position : Nat) : Prop :=
  definition.values[position]? = some value ∧
    ∀ later, position < later → definition.values[later]? ≠ some value

theorem LastAt.unique (here : definition.LastAt value position)
    (there : definition.LastAt value position') : position = position' := by
  rcases Nat.lt_trichotomy position position' with before | same | after
  · exact absurd there.1 (here.2 position' before)
  · exact same
  · exact absurd here.1 (there.2 position after)

theorem LastAt.same_value (here : definition.LastAt value position)
    (there : definition.LastAt value' position) : value = value' :=
  Option.some.inj (here.1.symm.trans there.1)

theorem lastAt_of_lastPosition? (found : definition.lastPosition? value = some position) :
    definition.LastAt value position := by
  obtain ⟨back, first, rfl⟩ := Option.map_eq_some_iff.mp found
  obtain ⟨inside, holds, none_before⟩ := List.idxOf?_eq_some_iff.mp first
  rw [List.length_reverse] at inside
  rw [List.getElem_reverse] at holds
  constructor
  · rw [List.getElem?_eq_getElem (by omega), holds]
  · intro later behind held
    obtain ⟨bound, same⟩ := List.getElem?_eq_some_iff.mp held
    have earlier : definition.values.length - 1 - later < back := by omega
    apply none_before _ earlier
    rw [List.getElem_reverse, ← same]
    congr 1
    omega

theorem lastPosition?_of_mem (held : value ∈ definition.values) :
    ∃ position, definition.lastPosition? value = some position := by
  have found : (definition.values.reverse.idxOf? value).isSome :=
    List.isSome_idxOf?.mpr (List.mem_reverse.mpr held)
  obtain ⟨back, first⟩ := Option.isSome_iff_exists.mp found
  exact ⟨_, Option.map_eq_some_iff.mpr ⟨back, first, rfl⟩⟩

theorem mem_of_find? (found : definition.find? kind key = some value) : value ∈ definition.values :=
  List.mem_of_find?_eq_some found

theorem find?_of_mem (kind : KeyKind) (distinct : (definition.values.map kind.of).Nodup)
    (held : value ∈ definition.values) : definition.find? kind (kind.of value) = some value := by
  have given : (definition.values.find? (kind.of · == kind.of value)).isSome :=
    List.find?_isSome.mpr ⟨value, held, beq_self_eq_true _⟩
  obtain ⟨first, found⟩ := Option.isSome_iff_exists.mp given
  have named : kind.of first = kind.of value := by simpa using List.find?_some found
  have same := List.inj_on_of_nodup_map distinct (mem_of_find? found) held named
  rw [find?, found, same]

def positionKey (value : EnumValue) (position : Nat) : String :=
  String.ofList (padded 6 position ++ value.displayValue.toList)

theorem positionKey_eq (value : EnumValue) (small : position < 1000000) :
    ∃ number : List Char, number.length = 6 ∧ (∀ c ∈ number, c.isDigit) ∧
      ofDigits number = position ∧
      positionKey value position = String.ofList number ++ value.displayValue := by
  refine ⟨paddedDigits 6 position, length_paddedDigits (by decide) small, ?_, ?_, ?_⟩
  · intro c found
    exact paddedDigits_are_digits found
  · exact ofDigits_paddedDigits 6 position
  · rw [positionKey, padded, String.ofList_append, String.ofList_toList]

theorem positionKey_lt (value value' : EnumValue) (less : position < position')
    (small : position' < 1000000) : positionKey value position < positionKey value' position' := by
  have six {n : Nat} (short : n < 1000000) : (padded 6 n).length = 6 :=
    length_paddedDigits (by decide) short
  have level : (padded 6 position).length = (padded 6 position').length := by
    rw [six (Nat.lt_trans less small), six small]
  have ordered := append_lt_append level (paddedDigits_lt (by decide) less small)
    value.displayValue.toList value'.displayValue.toList
  change (positionKey value position).toList < (positionKey value' position').toList
  simpa only [positionKey, String.toList_ofList] using ordered

theorem compare_of_lt {left right : String} (less : left < right) : compare left right = .lt :=
  compareOfLessAndEq_eq_lt.mpr less

theorem compare_positionKey (small : position < 1000000) (small' : position' < 1000000)
    (same : position = position' → value = value') :
    compare (positionKey value position) (positionKey value' position') =
      compare position position' := by
  rcases Nat.lt_trichotomy position position' with less | level | greater
  · rw [Nat.compare_eq_lt.mpr less]
    exact compare_of_lt (positionKey_lt value value' less small')
  · obtain rfl := same level
    rw [level, Std.compare_self, Std.compare_self]
  · have lower : compare (positionKey value' position') (positionKey value position) = .lt :=
      compare_of_lt (positionKey_lt value' value greater small)
    rw [Nat.compare_eq_gt.mpr greater]
    exact Std.OrientedCmp.gt_iff_lt.mpr lower

theorem sortKey_of_find? (ordered : definition.usePosition = true)
    (found : definition.find? kind key = some value) (last : definition.LastAt value position) :
    definition.sortKey true kind key = positionKey value position := by
  obtain ⟨other, searched⟩ := lastPosition?_of_mem (mem_of_find? found)
  obtain rfl := last.unique (lastAt_of_lastPosition? searched)
  simp only [sortKey, found, ordered, searched, Bool.and_self, if_true]
  rfl

/-- Keys of values found under any names compare as the last positions of the values do. -/
theorem compare_sortKey (ordered : definition.usePosition = true)
    (found : definition.find? kind key = some value)
    (found' : definition.find? kind' key' = some value') (last : definition.LastAt value position)
    (last' : definition.LastAt value' position') (small : position < 1000000)
    (small' : position' < 1000000) :
    compare (definition.sortKey true kind key) (definition.sortKey true kind' key') =
      compare position position' := by
  rw [sortKey_of_find? ordered found last, sortKey_of_find? ordered found' last']
  apply compare_positionKey small small'
  rintro rfl
  exact last.same_value last'

theorem sortKey_of_same_value (found : definition.find? kind key = some value)
    (found' : definition.find? kind' key' = some value) (sorted : Bool) :
    definition.sortKey sorted kind key = definition.sortKey sorted kind' key' := by
  simp only [sortKey, found, found']

theorem lastAt_of_distinct (distinct : (definition.values.map (·.id)).Nodup)
    (held : definition.values[position]? = some value) : definition.LastAt value position := by
  refine ⟨held, ?_⟩
  intro later behind again
  have apart : definition.values.Nodup := distinct.of_map
  obtain ⟨inside, same⟩ := List.getElem?_eq_some_iff.mp again
  obtain ⟨bound, here⟩ := List.getElem?_eq_some_iff.mp held
  have level := (List.Nodup.getElem_inj_iff apart).mp (here.trans same.symm)
  omega

theorem sortKeys_increase (ordered : definition.usePosition = true)
    (distinct : (definition.values.map (·.id)).Nodup) :
    ((definition.values.take 1000000).map fun value => definition.sortKey true .id value.id).Pairwise
      (· < ·) := by
  rw [List.pairwise_map, List.pairwise_iff_getElem]
  intro i j inside inside' less
  rw [List.length_take] at inside inside'
  rw [List.getElem_take, List.getElem_take]
  have key {position : Nat} (bound : position < definition.values.length) :
      definition.sortKey true .id definition.values[position].id =
        positionKey definition.values[position] position :=
    sortKey_of_find? ordered (find?_of_mem .id distinct (List.getElem_mem bound))
      (lastAt_of_distinct distinct (List.getElem?_eq_getElem bound))
  rw [key (by omega), key (by omega)]
  exact positionKey_lt _ _ less (by omega)

end EnumDefinition

namespace Element

open EnumDefinition

/-- An element that sorts, over an entry with an enumeration that is ordered by position. It gives its
sort keys in any catalogs without a look at them.

* A key that names no value is its own sort key.
* Any other one names a value that has a last position. Within six digits, the sort key is the position
  in six digits with the display value behind it.
* Sort keys compare, as texts, the way the last positions do, however the values are named, and a value
  has one sort key.
* If identifiers are distinct and display values are, both name the value with one sort key, and in
  declared order the keys increase for as long as the positions have six digits. -/
theorem sort_keys_follow_declared_positions (e : Element) (entry : CatalogEntry)
    (enumeration : EnumDefinition) (kept : e.cell = some (some entry))
    (listed : entry.enumeration = some enumeration) (ordered : enumeration.usePosition = true)
    (sorted : e.sortOrder ≠ .notSorted) :
    (∀ live kind key, (Query.sortKey kind key).ask live e = ⟨(e.sortKey kind key, e), []⟩) ∧
    (∀ kind key, enumeration.find? kind key = none → e.sortKey kind key = key) ∧
    (∀ kind key value, enumeration.find? kind key = some value →
      ∃ position, enumeration.LastAt value position ∧ (position < 1000000 →
        ∃ number : List Char, number.length = 6 ∧ (∀ c ∈ number, c.isDigit) ∧
          ofDigits number = position ∧
          e.sortKey kind key = String.ofList number ++ value.displayValue)) ∧
    (∀ kind key value kind' key' value', enumeration.find? kind key = some value →
      enumeration.find? kind' key' = some value' →
      (value = value' → e.sortKey kind key = e.sortKey kind' key') ∧
      ∀ position position', enumeration.LastAt value position →
        enumeration.LastAt value' position' → position < 1000000 → position' < 1000000 →
        compare (e.sortKey kind key) (e.sortKey kind' key') = compare position position') ∧
    ((enumeration.values.map (·.id)).Nodup → (enumeration.values.map (·.displayValue)).Nodup →
      (∀ value ∈ enumeration.values,
        e.sortKey .displayValue value.displayValue = e.sortKey .id value.id) ∧
      ((enumeration.values.take 1000000).map fun value => e.sortKey .id value.id).Pairwise
        (· < ·)) := by
  have settled : e.Settled := by rw [Settled, kept]; rfl
  have sorts : e.isSorted = true := bne_iff_ne.mpr sorted
  have read (kind : KeyKind) (key : String) :
      e.sortKey kind key = enumeration.sortKey true kind key := by
    have held : e.enumeration? = some enumeration := by simp [enumeration?, Element.entry, kept, listed]
    rw [Element.sortKey, held, sorts]
  refine ⟨fun live kind key => ask_of_settled live (.sortKey kind key) settled, ?_, ?_, ?_, ?_⟩
  · intro kind key unknown
    rw [read, EnumDefinition.sortKey, unknown]
  · intro kind key value found
    obtain ⟨position, searched⟩ := lastPosition?_of_mem (mem_of_find? found)
    have last := lastAt_of_lastPosition? searched
    refine ⟨position, last, ?_⟩
    intro small
    rw [read, sortKey_of_find? ordered found last]
    exact positionKey_eq value small
  · intro kind key value kind' key' value' found found'
    constructor
    · rintro rfl
      rw [read, read, sortKey_of_same_value found found']
    · intro position position' last last' small small'
      rw [read, read]
      exact compare_sortKey ordered found found' last last' small small'
  · intro distinct_ids distinct_names
    constructor
    · intro value held
      rw [read, read]
      exact sortKey_of_same_value (find?_of_mem .displayValue distinct_names held)
        (find?_of_mem .id distinct_ids held) true
    · simp only [read]
      exact sortKeys_increase ordered distinct_ids

theorem sort_keys_follow_declared_positions_repeated :
    let sortedBy (values : List EnumValue) : Element :=
      let entry : CatalogEntry :=
        ⟨"state", "orders.state", "State", .text, "", false, none, some ⟨"states", true, values⟩⟩
      { bare with cell := some (some entry) }
    let repeated := sortedBy
      [⟨"N", "New"⟩, ⟨"N", "Fresh"⟩, ⟨"X", "New"⟩, ⟨"S", "Shipped"⟩, ⟨"N", "New"⟩]
    let distinct := sortedBy [⟨"N", "New"⟩, ⟨"S", "Shipped"⟩, ⟨"C", "Closed"⟩]
    repeated.sortKey .id "N" = repeated.sortKey .displayValue "New" ∧
      compare (repeated.sortKey .displayValue "New") (repeated.sortKey .id "S") = .gt ∧
      repeated.sortKey .id "New" = "New" ∧
      [distinct.sortKey .id "N", distinct.sortKey .id "S", distinct.sortKey .id "C"].Pairwise
        (· < ·) := by
  intro sortedBy repeated distinct
  obtain ⟨-, unknown, -, pairs, -⟩ := sort_keys_follow_declared_positions repeated _ _ rfl rfl rfl
    (by decide)
  have twice := pairs .id "N" ⟨"N", "New"⟩ .displayValue "New" ⟨"N", "New"⟩ rfl rfl
  have apart := pairs .displayValue "New" ⟨"N", "New"⟩ .id "S" ⟨"S", "Shipped"⟩ rfl rfl
  have order := apart.2 4 3 (lastAt_of_lastPosition? (by decide))
    (lastAt_of_lastPosition? (by decide)) (by decide) (by decide)
  obtain ⟨-, -, -, -, increase⟩ := sort_keys_follow_declared_positions distinct _ _ rfl rfl rfl
    (by decide)
  exact ⟨twice.1 rfl, order, unknown .id "New" rfl, (increase (by decide) (by decide)).2⟩

end Element

end ReportColumns
