import ReportColumns.Element.Query
/-!
What computations on an element answer, whether or not its cell is filled when they start.

A question gives the answer of the settled element in both cases, and it leaves the element either as
it was or settled. Deriving the inputs of the policy always settles the element: one of the inputs is
read off the entry whatever the other settings are.
-/

namespace ReportColumns.Element

variable {catalogs : CatalogStore} {s e : Element}

def Settled (e : Element) : Prop := e.cell.isSome = true

instance (e : Element) : Decidable e.Settled := inferInstanceAs (Decidable (_ = true))

@[simp] theorem settle_of_settled (settled : e.Settled) : e.settle catalogs = pure e := by
  obtain ⟨kept, filled⟩ := Option.isSome_iff_exists.mp settled
  simp [settle, filled]

theorem settle_is_settled (catalogs : CatalogStore) (e : Element) :
    (e.settle catalogs).value.Settled := by
  cases filled : e.cell <;> simp [settle, filled, Settled]

theorem settle_changes_cell (catalogs : CatalogStore) (e : Element) :
    (e.settle catalogs).value = { e with cell := (e.settle catalogs).value.cell } := by
  cases filled : e.cell with
  | none => simp [settle, filled]
  | some kept =>
    simp only [settle, filled, Logged.value_pure]
    rw [← filled]

theorem settle_empty (empty : e.cell = none) :
    e.settle catalogs =
      ⟨{ e with cell := some (e.lookUp catalogs).value }, (e.lookUp catalogs).lines⟩ := by
  simp [settle, empty, Bind.bind, Logged.andThen, Pure.pure, Logged.silent]

namespace Access

/-- A computation that gives a result once the element is settled as `s`, and that settles it or leaves
it alone. -/
def Gives (catalogs : CatalogStore) (s : Element) (access : Access α) (result : Logged α) : Prop :=
  ∀ e, (e.settle catalogs).value = s →
    access catalogs e = ⟨(result.value, e), result.lines⟩ ∨
      access catalogs e = ⟨(result.value, s), (e.settle catalogs).lines ++ result.lines⟩

def Fetches (catalogs : CatalogStore) (s : Element) (access : Access α) (result : Logged α) : Prop :=
  ∀ e, (e.settle catalogs).value = s →
    access catalogs e = ⟨(result.value, s), (e.settle catalogs).lines ++ result.lines⟩

theorem Fetches.gives {access : Access α} {result : Logged α}
    (fetches : Fetches catalogs s access result) : Gives catalogs s access result :=
  fun e becomes => Or.inr (fetches e becomes)

theorem Gives.of_settled {access : Access α} {result : Logged α}
    (gives : Gives catalogs s access result) (settled : s.Settled) :
    access catalogs s = ⟨(result.value, s), result.lines⟩ := by
  have same : s.settle catalogs = pure s := settle_of_settled settled
  rcases gives s (by rw [same]; rfl) with kept | looked
  · exact kept
  · rw [looked, same]
    rfl

theorem bind_apply (first : Access α) (next : α → Access β) (catalogs : CatalogStore) (e : Element) :
    (first >>= next) catalogs e =
      ⟨(next (first catalogs e).value.1 catalogs (first catalogs e).value.2).value,
        (first catalogs e).lines ++
          (next (first catalogs e).value.1 catalogs (first catalogs e).value.2).lines⟩ := rfl

theorem gives_pure (a : α) : Gives catalogs s (pure a) (pure a) := fun _ _ => Or.inl rfl

theorem gives_report (logged : Logged α) : Gives catalogs s (report logged) logged := by
  intro e _
  left
  simp [report, Bind.bind, Logged.andThen, Pure.pure, Logged.silent]

theorem gives_read (setting : Element → α)
    (steady : ∀ (e : Element) cell, setting { e with cell } = setting e) :
    Gives catalogs s (read setting) (pure (setting s)) := by
  intro e becomes
  left
  rw [← becomes, settle_changes_cell, steady]
  rfl

theorem fetches_column : Fetches catalogs s column (pure s.entry) := by
  intro e becomes
  subst becomes
  rfl

theorem settle_settled (becomes : (e.settle catalogs).value = s) : s.settle catalogs = pure s :=
  settle_of_settled (becomes ▸ settle_is_settled catalogs e)

theorem Gives.bind {first : Access α} {next : α → Access β} {a : α} {result : Logged β}
    (answers : Gives catalogs s first (pure a)) (rest : Gives catalogs s (next a) result) :
    Gives catalogs s (first >>= next) result := by
  intro e becomes
  have again := settle_settled becomes
  rcases answers e becomes with kept | looked
  · rw [bind_apply, kept]
    exact rest e becomes
  · right
    rw [bind_apply, looked]
    rcases rest s (by rw [again]; rfl) with kept | looked
    · simp [kept]
    · simp [looked, again]

theorem Gives.bind_fetches {first : Access α} {next : α → Access β} {a : α} {result : Logged β}
    (answers : Gives catalogs s first (pure a)) (rest : Fetches catalogs s (next a) result) :
    Fetches catalogs s (first >>= next) result := by
  intro e becomes
  have again := settle_settled becomes
  rcases answers e becomes with kept | looked
  · rw [bind_apply, kept]
    exact rest e becomes
  · rw [bind_apply, looked]
    have last := rest s (by rw [again]; rfl)
    simp [last, again]

theorem Fetches.bind {first : Access α} {next : α → Access β} {a : α} {result : Logged β}
    (answers : Fetches catalogs s first (pure a)) (rest : Gives catalogs s (next a) result) :
    Fetches catalogs s (first >>= next) result := by
  intro e becomes
  have again := settle_settled becomes
  rw [bind_apply, answers e becomes]
  rcases rest s (by rw [again]; rfl) with kept | looked
  · simp [kept]
  · simp [looked, again]

theorem gives_enumeration? : Gives catalogs s enumeration? (pure s.enumeration?) :=
  fetches_column.gives.bind (gives_pure _)

theorem gives_resolvedType : Gives catalogs s resolvedType (pure s.resolvedType) := by
  refine (gives_read columnType fun _ _ => rfl).bind ?_
  unfold Element.resolvedType
  split
  · exact gives_pure _
  · refine fetches_column.gives.bind ?_
    cases s.entry.map CatalogEntry.columnType with
    | none => exact gives_pure _
    | some declared => cases declared <;> exact gives_pure _

theorem gives_isEnum : Gives catalogs s isEnum (pure s.isEnum) := by
  refine (gives_read countsRows fun _ _ => rfl).bind ?_
  unfold Element.isEnum
  cases s.countsRows with
  | true => exact gives_pure _
  | false => exact gives_enumeration?.bind (gives_pure _)

theorem gives_isNumeric : Gives catalogs s isNumeric (pure s.isNumeric) := by
  refine (gives_read countsRows fun _ _ => rfl).bind ?_
  unfold Element.isNumeric
  cases s.countsRows with
  | true => exact gives_pure _
  | false => exact gives_resolvedType.bind (gives_pure _)

theorem gives_isDateTime : Gives catalogs s isDateTime (pure s.isDateTime) := by
  refine (gives_read countsRows fun _ _ => rfl).bind ?_
  unfold Element.isDateTime
  cases s.countsRows with
  | true => exact gives_pure _
  | false => exact gives_resolvedType.bind (gives_pure _)

theorem gives_isText : Gives catalogs s isText (pure s.isText) := by
  refine (gives_read countsRows fun _ _ => rfl).bind ?_
  unfold Element.isText
  cases s.countsRows with
  | true => exact gives_pure _
  | false => exact gives_resolvedType.bind (gives_pure _)

theorem gives_formatClassification :
    Gives catalogs s formatClassification (pure s.formatClassification) := by
  refine gives_isNumeric.bind ?_
  unfold Element.formatClassification
  split
  · exact gives_pure _
  · refine gives_isDateTime.bind ?_
    split <;> exact gives_pure _

theorem gives_classification : Gives catalogs s classification (pure s.classification) := by
  refine (gives_read countsRows fun _ _ => rfl).bind ?_
  unfold Element.classification
  split
  · exact gives_pure _
  · refine gives_enumeration?.bind ?_
    split
    · exact gives_pure _
    · exact gives_formatClassification

theorem gives_defaultAggregate :
    Gives catalogs s defaultAggregate (pure s.defaultAggregate) := by
  refine gives_enumeration?.bind ?_
  unfold Element.defaultAggregate
  split
  · exact gives_pure _
  · refine gives_resolvedType.bind ?_
    cases s.resolvedType <;> exact gives_pure _

theorem fetches_policyInputs : Fetches catalogs s policyInputs (pure s.policyInputs) :=
  (gives_read placement fun _ _ => rfl).bind_fetches <|
    (gives_read serieRole fun _ _ => rfl).bind_fetches <|
    (gives_read pointSortKey fun _ _ => rfl).bind_fetches <|
    (gives_read showTotal fun _ _ => rfl).bind_fetches <|
    (gives_read numericPreset fun _ _ => rfl).bind_fetches <|
    (gives_read datePreset fun _ _ => rfl).bind_fetches <|
    gives_isEnum.bind_fetches <|
    gives_isNumeric.bind_fetches <|
    gives_isDateTime.bind_fetches <|
    -- Counting rows may keep all three from asking for the entry. This one always asks.
    fetches_column.bind <|
    (gives_read source fun _ _ => rfl).bind <|
    gives_pure _

theorem refreshPolicy_apply (catalogs : CatalogStore) (e : Element) :
    refreshPolicy catalogs e =
      ⟨((), (e.settle catalogs).value.refreshed), (e.settle catalogs).lines⟩ := by
  have inputs := fetches_policyInputs e (Eq.refl (e.settle catalogs).value)
  simp only [refreshPolicy, bind_apply, inputs]
  simp [change, refreshed]

theorem invalidate_apply (catalogs : CatalogStore) (e : Element) :
    invalidate catalogs e =
      ⟨((), refreshed { e with cell := some (e.lookUp catalogs).value }),
        (e.lookUp catalogs).lines⟩ := by
  simp only [invalidate, bind_apply, refreshPolicy_apply]
  simp only [change, Logged.value_pure, Logged.lines_pure]
  rw [settle_empty (e := { e with cell := none }) rfl]
  rfl

theorem gives_namesAggregate (entry : CatalogEntry) :
    Gives catalogs s (namesAggregate entry) (pure (s.namesAggregate entry)) := by
  refine (gives_read aggregate fun _ _ => rfl).bind ?_
  refine (gives_read placement fun _ _ => rfl).bind ?_
  unfold Element.namesAggregate
  cases s.placement == .data with
  | true => exact gives_isNumeric.bind (gives_pure _)
  | false => exact gives_pure _

theorem gives_derivedNameIn (dictionary : Dictionary) :
    Gives catalogs s (derivedNameIn dictionary) (pure (s.derivedNameIn dictionary)) := by
  refine fetches_column.gives.bind ?_
  unfold Element.derivedNameIn
  cases s.entry with
  | none => exact gives_pure _
  | some entry =>
    refine (gives_namesAggregate entry).bind ?_
    dsimp only
    split
    · exact (gives_read aggregate fun _ _ => rfl).bind (gives_pure _)
    · exact gives_pure _

theorem gives_displayName : Gives catalogs s displayName (pure s.displayName) := by
  refine (gives_read nameOverride fun _ _ => rfl).bind ?_
  unfold Element.displayName
  split
  · exact gives_derivedNameIn .identity
  · exact gives_pure _

theorem gives_displayNameIn (dictionary : Dictionary) :
    Gives catalogs s (displayNameIn dictionary) (pure (s.displayNameIn dictionary)) := by
  refine (gives_read nameOverride fun _ _ => rfl).bind ?_
  unfold Element.displayNameIn
  split
  · exact gives_derivedNameIn dictionary
  · exact gives_pure _

theorem gives_catalogFormat : Gives catalogs s catalogFormat (pure s.catalogFormat) :=
  fetches_column.gives.bind (gives_pure _)

theorem gives_chosenFormat : Gives catalogs s chosenFormat (pure s.chosenFormat) := by
  refine (gives_read numericPreset fun _ _ => rfl).bind ?_
  refine (gives_read datePreset fun _ _ => rfl).bind ?_
  refine (gives_read Element.format fun _ _ => rfl).bind ?_
  unfold Element.chosenFormat
  refine gives_isNumeric.bind ?_
  split
  · exact gives_catalogFormat
  refine gives_isNumeric.bind ?_
  split
  · exact gives_pure _
  refine gives_isDateTime.bind ?_
  split
  · exact gives_catalogFormat
  refine gives_isDateTime.bind ?_
  split
  · exact gives_pure _
  refine gives_isText.bind ?_
  split
  · exact gives_pure _
  · exact gives_catalogFormat

theorem gives_effectiveFormat : Gives catalogs s effectiveFormat (pure s.effectiveFormat) := by
  refine gives_chosenFormat.bind ?_
  unfold Element.effectiveFormat
  split <;> exact gives_pure _

theorem gives_sortKey (kind : EnumDefinition.KeyKind) (key : String) :
    Gives catalogs s (sortKey kind key) (pure (s.sortKey kind key)) := by
  refine (gives_read isSorted fun _ _ => rfl).bind (gives_enumeration?.bind ?_)
  unfold Element.sortKey
  cases s.enumeration? <;> exact gives_pure _

theorem gives_derivedSql : Gives catalogs s derivedSql (pure s.derivedSql) := by
  refine (gives_read placement fun _ _ => rfl).bind ?_
  refine (gives_read aggregate fun _ _ => rfl).bind (fetches_column.gives.bind ?_)
  unfold Element.derivedSql
  cases s.entry with
  | none => exact gives_pure _
  | some entry =>
    dsimp only
    split <;> exact gives_pure _

theorem gives_sqlColumn : Gives catalogs s sqlColumn (pure s.sqlColumn) := by
  refine (gives_read sqlOverride fun _ _ => rfl).bind ?_
  unfold Element.sqlColumn
  split
  · exact gives_derivedSql
  · exact gives_pure _

theorem gives_hasHtmlTags : Gives catalogs s hasHtmlTags (pure s.hasHtmlTags) := by
  refine (gives_read htmlTagsOverride fun _ _ => rfl).bind ?_
  unfold Element.hasHtmlTags
  cases s.htmlTagsOverride with
  | none => exact fetches_column.gives.bind (gives_pure _)
  | some tags => exact gives_pure _

end Access

/-- A question is answered as the settled element answers it, whether or not its cell is filled. -/
theorem ask_gives (catalogs : CatalogStore) (s : Element) (query : Query) :
    Access.Gives catalogs s query.ask (query.answer s) := by
  cases query with
  | column => exact Access.fetches_column.gives
  | enumeration? => exact Access.gives_enumeration?
  | resolvedType => exact Access.gives_resolvedType
  | isEnum => exact Access.gives_isEnum
  | isNumeric => exact Access.gives_isNumeric
  | isDateTime => exact Access.gives_isDateTime
  | isText => exact Access.gives_isText
  | classification => exact Access.gives_classification
  | formatClassification => exact Access.gives_formatClassification
  | defaultAggregate => exact Access.gives_defaultAggregate
  | policyInputs => exact Access.fetches_policyInputs.gives
  | derivedNameIn dictionary => exact Access.gives_derivedNameIn dictionary
  | displayName => exact Access.gives_displayName
  | displayNameIn dictionary => exact Access.gives_displayNameIn dictionary
  | effectiveFormat => exact Access.gives_effectiveFormat
  | chartFormat locale =>
    exact Access.gives_effectiveFormat.bind
      (Access.gives_formatClassification.bind (Access.gives_report _))
  | spreadsheetFormat locale =>
    exact Access.gives_effectiveFormat.bind
      (Access.gives_formatClassification.bind (Access.gives_pure _))
  | dialectFormats locale =>
    exact Access.gives_effectiveFormat.bind
      (Access.gives_formatClassification.bind (Access.gives_report _))
  | displayValue value locale =>
    change Access.Gives catalogs s (Access.displayValue value locale) (s.displayValue value locale)
    unfold Access.displayValue Element.displayValue
    split
    · exact Access.gives_effectiveFormat.bind (Access.gives_report _)
    · exact Access.gives_pure _
  | sortKey kind key => exact Access.gives_sortKey kind key
  | derivedSql => exact Access.gives_derivedSql
  | sqlColumn => exact Access.gives_sqlColumn
  | hasHtmlTags => exact Access.gives_hasHtmlTags

theorem ask_of_settled (catalogs : CatalogStore) (query : Query) (settled : e.Settled) :
    query.ask catalogs e = ⟨((query.answer e).value, e), (query.answer e).lines⟩ :=
  (ask_gives catalogs e query).of_settled settled

end ReportColumns.Element
