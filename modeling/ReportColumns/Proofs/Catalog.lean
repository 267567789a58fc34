import ReportColumns.Catalog
/-!
What catalogs hold after an entry was added or taken out, and what a store of catalogs holds after one
of them has changed.
-/

namespace ReportColumns

namespace Catalog

theorem find?_remove (catalog : Catalog) (removed columnId : String) :
    (catalog.remove removed).entries.find? (·.id == columnId) =
      if columnId = removed then none else catalog.entries.find? (·.id == columnId) := by
  rw [remove, List.find?_filter]
  by_cases same : columnId = removed
  · simp [same, List.find?_eq_none]
  · rw [if_neg same]
    congr 1
    funext entry
    by_cases named : entry.id = columnId <;> simp [named, same]

theorem lookup_remove (catalog : Catalog) (removed columnId : String) :
    (catalog.remove removed).lookup columnId =
      if columnId = removed then .error (.columnNotFound removed) else catalog.lookup columnId := by
  unfold lookup
  rw [find?_remove]
  by_cases same : columnId = removed
  · rw [if_pos same, if_pos same, same]
  · rw [if_neg same, if_neg same]

theorem lookup_insert (catalog : Catalog) (entry : CatalogEntry) (columnId : String) :
    (catalog.insert entry).lookup columnId =
      if columnId = entry.id then .ok entry else catalog.lookup columnId := by
  by_cases same : columnId = entry.id
  · rw [if_pos same, same, lookup_insert_self]
  · have passed : ¬ entry.id = columnId := fun found => same found.symm
    rw [if_neg same]
    unfold lookup
    simp only [insert, List.find?_cons, beq_eq_false_iff_ne.mpr passed]
    rw [find?_remove, if_neg same]

theorem lookup_error {catalog : Catalog} {columnId : String} {cause : CatalogError}
    (failed : catalog.lookup columnId = .error cause) : cause = .columnNotFound columnId := by
  unfold lookup at failed
  split at failed
  · cases failed
  · injection failed with same
    exact same.symm

end Catalog

theorem lookup_replaced {β : Type} (pairs : List (String × β)) (key other : String) (value : β) :
    ((key, value) :: pairs.filter (·.1 != key)).lookup other =
      if other = key then some value else pairs.lookup other := by
  rw [List.lookup_cons]
  by_cases same : other = key
  · simp [same]
  · simp only [beq_eq_false_iff_ne.mpr same, if_neg same]
    induction pairs with
    | nil => rfl
    | cons pair rest ih =>
      rw [List.filter_cons, List.lookup_cons]
      by_cases dropped : pair.1 = key
      · have passed : (other == key) = false := beq_eq_false_iff_ne.mpr same
        simp [dropped, passed, ih]
      · have kept : (pair.1 != key) = true := bne_iff_ne.mpr dropped
        rw [if_pos kept, List.lookup_cons, ih]

namespace CatalogStore

theorem get?_put (store : CatalogStore) (name other : String) (catalog : Catalog) :
    (store.put name catalog).get? other =
      if other = name then some catalog else store.get? other :=
  lookup_replaced store.catalogs name other catalog

theorem get?_update (store : CatalogStore) (name other : String) (change : Catalog → Catalog) :
    (store.update name change).get? other =
      if other = name then (store.get? name).map change else store.get? other := by
  unfold update
  cases held : store.get? name with
  | none =>
    by_cases same : other = name
    · simp [same, held]
    · simp [same]
  | some catalog => exact get?_put ..

theorem lookup_error {store : CatalogStore} {source : CatalogSource} {columnId : String}
    {cause : CatalogError} (failed : store.lookup source columnId = .error cause) :
    cause = .columnNotFound columnId := by
  unfold lookup at failed
  split at failed
  · exact Catalog.lookup_error failed
  · injection failed with same
    exact same.symm

theorem lookup_update_insert {store : CatalogStore} {name : String} (entry : CatalogEntry)
    (present : (store.get? name).isSome) (source : CatalogSource) (columnId : String) :
    (store.update name (·.insert entry)).lookup source columnId =
      if source.catalog = name ∧ columnId = entry.id then .ok entry
      else store.lookup source columnId := by
  unfold lookup
  rw [get?_update]
  by_cases here : source.catalog = name
  · obtain ⟨catalog, held⟩ := Option.isSome_iff_exists.mp present
    simp only [here, held, if_true, Option.map_some, true_and]
    exact Catalog.lookup_insert ..
  · simp only [here, if_false, false_and]

theorem lookup_update_remove (store : CatalogStore) (name removed : String)
    (source : CatalogSource) (columnId : String) :
    (store.update name (·.remove removed)).lookup source columnId =
      if source.catalog = name ∧ columnId = removed then .error (.columnNotFound removed)
      else store.lookup source columnId := by
  unfold lookup
  rw [get?_update]
  by_cases here : source.catalog = name
  · simp only [here, if_true, true_and]
    cases store.get? name with
    | none =>
      by_cases same : columnId = removed
      · rw [if_pos same, same]
        rfl
      · rw [if_neg same]
        rfl
    | some catalog => exact Catalog.lookup_remove ..
  · simp only [here, if_false, false_and]

end CatalogStore

end ReportColumns
