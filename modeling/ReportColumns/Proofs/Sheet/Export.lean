import ReportColumns.Sheet.Workbook
/-!
Exports step by step: what they come to and what they log. An export of several steps comes to what the last
one does, unless one before it stopped, and logs what each of them logged.
-/

namespace ReportColumns

namespace Export

variable {α β : Type} {level : LogLevel}

@[simp] theorem result_pure (a : α) : (pure a : Export α).result = .ok a := rfl

@[simp] theorem result_checked (check : Except WriteRefusal Unit) :
    (checked check).result = check.mapError .refused := by
  cases check <;> rfl

@[simp] theorem result_bind (action : Export α) (next : α → Export β) :
    (action >>= next).result = action.result >>= fun a => (next a).result := by
  unfold result
  rw [ExceptT.run_bind, Logged.value_bind]
  cases action.run.value <;> rfl

theorem result_bind_eq_ok_iff {action : Export α} {next : α → Export β} {b : β} :
    (action >>= next).result = .ok b ↔ ∃ a, action.result = .ok a ∧ (next a).result = .ok b := by
  rw [result_bind]
  constructor
  · intro success
    cases done : action.result with
    | error cause =>
      rw [done] at success
      cases success
    | ok a =>
      rw [done] at success
      exact ⟨a, rfl, success⟩
  · rintro ⟨a, done, success⟩
    rw [done]
    exact success

theorem result_checked_eq_ok_iff {check : Except WriteRefusal Unit} :
    (checked check).result = .ok () ↔ check = .ok () := by
  rw [result_checked]
  cases check with
  | error cause => exact iff_of_false nofun nofun
  | ok => exact iff_of_true rfl rfl

theorem result_forM_checked_eq_ok_iff {items : List α} {check : α → Except WriteRefusal Unit} :
    (items.forM fun item => checked (check item)).result = .ok () ↔
      ∀ item ∈ items, check item = .ok () := by
  induction items with
  | nil => exact iff_of_true rfl (by simp)
  | cons first rest ih =>
    rw [List.forM, result_bind_eq_ok_iff, List.forall_mem_cons]
    constructor
    · rintro ⟨⟨⟩, here, later⟩
      exact ⟨result_checked_eq_ok_iff.mp here, ih.mp later⟩
    · rintro ⟨here, later⟩
      exact ⟨(), result_checked_eq_ok_iff.mpr here, ih.mpr later⟩

theorem result_mapM_getElem? {items : List α} {action : α → Export β} {results : List β}
    (success : (items.mapM action).result = .ok results) {i : Nat} {item : α}
    (present : items[i]? = some item) :
    ∃ b, (action item).result = .ok b ∧ results[i]? = some b := by
  induction items generalizing i results with
  | nil => cases present
  | cons first rest ih =>
    rw [List.mapM_cons] at success
    obtain ⟨b, here, later⟩ := result_bind_eq_ok_iff.mp success
    obtain ⟨others, rest_success, ⟨⟩⟩ := result_bind_eq_ok_iff.mp later
    cases i with
    | zero =>
      cases present
      exact ⟨b, here, rfl⟩
    | succ i => exact ih rest_success present

/-- Nothing is logged but lines of a level. -/
def LogsAt (level : LogLevel) (action : Export α) : Prop :=
  ∀ line ∈ action.run.lines, line.level = level

theorem logsAt_pure (a : α) : LogsAt level (pure a) := nofun

theorem logsAt_throw (cause : ExportError) : LogsAt level (throw cause : Export α) := nofun

theorem logsAt_checked (check : Except WriteRefusal Unit) : LogsAt level (checked check) := by
  cases check <;> exact nofun

theorem logsAt_bind {action : Export α} {next : α → Export β} (first : LogsAt level action)
    (rest : ∀ a, LogsAt level (next a)) : LogsAt level (action >>= next) := by
  intro line logged
  rw [ExceptT.run_bind, Logged.lines_bind, List.mem_append] at logged
  rcases logged with before | after
  · exact first line before
  · cases done : action.run.value with
    | error cause =>
      rw [done] at after
      cases after
    | ok a =>
      rw [done] at after
      exact rest a line after

theorem logsAt_forM {items : List α} {action : α → Export Unit}
    (each : ∀ item, LogsAt level (action item)) : LogsAt level (items.forM action) := by
  induction items with
  | nil => exact logsAt_pure ()
  | cons first rest ih => exact logsAt_bind (each first) fun _ => ih

theorem logsAt_mapM {items : List α} {action : α → Export β}
    (each : ∀ item, LogsAt level (action item)) : LogsAt level (items.mapM action) := by
  induction items with
  | nil => exact logsAt_pure []
  | cons first rest ih =>
    rw [List.mapM_cons]
    exact logsAt_bind (each first) fun _ => logsAt_bind ih fun _ => logsAt_pure _

end Export

end ReportColumns
