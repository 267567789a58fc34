import Mathlib.Data.List.Nodup
import Mathlib.Tactic.SplitIfs
import ReportColumns.Json.Record
import ReportColumns.Proofs.Json.Reader
import ReportColumns.Vocabulary
/-!
Typed data loads as it was saved.

A type is lawful when its own reading undoes its writing, and when it writes no numbers, so that the text
in between reads back too. A record is read field by field: a member that was removed leaves its field
empty and all others as they are.
-/

namespace ReportColumns

class LawfulJsonForm (α : Type) [JsonForm α] : Prop where
  ofJson?_toJson (value : α) : JsonForm.ofJson? (toJson value) = some value
  numberFree (value : α) : (toJson value).NumberFree

open LawfulJsonForm

theorem load?_text {json : Json} [JsonForm α] (free : json.NumberFree) :
    load? α json.text = JsonForm.ofJson? json := by
  rw [load?, Json.ofText?_text free]
  rfl

theorem load?_save [JsonForm α] [LawfulJsonForm α] (value : α) : load? α (save value) = some value := by
  rw [save, load?_text (numberFree value), ofJson?_toJson]

instance : LawfulJsonForm String where
  ofJson?_toJson _ := rfl
  numberFree text := .string text

instance : LawfulJsonForm Bool where
  ofJson?_toJson _ := rfl
  numberFree b := .bool b

instance [JsonForm α] [LawfulJsonForm α] : LawfulJsonForm (List α) where
  ofJson?_toJson items := by
    change (items.map toJson).mapM JsonForm.ofJson? = some items
    induction items with
    | nil => rfl
    | cons item others ih => simp [ofJson?_toJson, ih]
  numberFree items := by
    apply Json.NumberFree.array
    intro json listed
    obtain ⟨item, _, rfl⟩ := List.mem_map.mp listed
    exact numberFree item

theorem LawfulJsonForm.option [JsonForm α] [LawfulJsonForm α]
    (present : ∀ value : α, toJson value ≠ .null) : LawfulJsonForm (Option α) where
  ofJson?_toJson := by
    intro value
    cases value with
    | none => rfl
    | some value =>
      have read : JsonForm.ofJson? (toJson (some value)) =
          (JsonForm.ofJson? (toJson value)).map (some : α → Option α) := by
        change JsonForm.ofJson? (α := Option α) (toJson value) = _
        cases json : toJson value with
        | null => exact absurd json (present value)
        | _ => rfl
      rw [read, ofJson?_toJson]
      rfl
  numberFree := by
    intro value
    cases value with
    | none => exact .null
    | some value => exact numberFree value

theorem LawfulJsonForm.vocabulary [Vocabulary α]
    (found : ∀ value : α, Vocabulary.ofWord? α (Vocabulary.word value) = some value) :
    LawfulJsonForm α where
  ofJson?_toJson value := found value
  numberFree value := .string (Vocabulary.word value)

namespace Json

def without (removed : List String) : Json → Json
  | .object members => .object (members.filter fun member => !member.1.any (· ∈ removed))
  | json => json

variable {members : List (String × Json)}

theorem ofMembers_without (members : List (String × Json)) (removed : List String) :
    (ofMembers members).without removed =
      ofMembers (members.filter fun member => member.1 ∉ removed) := by
  simp [ofMembers, without, List.filter_map, Function.comp_def]

theorem ofMembers_without_nil (members : List (String × Json)) :
    (ofMembers members).without [] = ofMembers members := by
  simp [ofMembers_without]

theorem NumberFree.without {json : Json} (free : json.NumberFree) (removed : List String) :
    (json.without removed).NumberFree := by
  cases free with
  | null => exact .null
  | bool b => exact .bool b
  | string text => exact .string text
  | array all => exact .array all
  | object all =>
    rw [ofMembers_without]
    apply NumberFree.object
    intro member kept
    exact all member (List.mem_filter.mp kept).1

theorem find?_name (nodup : (members.map Prod.fst).Nodup) {member : String × Json}
    (listed : member ∈ members) : members.find? (·.1 == member.1) = some member := by
  induction members with
  | nil => simp at listed
  | cons head others ih =>
    rw [List.map_cons, List.nodup_cons] at nodup
    rcases List.mem_cons.mp listed with rfl | behind
    · simp
    · have other : head.1 ≠ member.1 := by
        intro same
        exact nodup.1 (same ▸ List.mem_map_of_mem behind)
      rw [List.find?_cons_of_neg (by simpa using other), ih nodup.2 behind]

theorem recordFields?_ofMembers (nodup : (members.map Prod.fst).Nodup) (names : List String) :
    (ofMembers members).recordFields? names =
      some ⟨true, names.map fun name => (members.find? (·.1 == name)).map (·.2)⟩ := by
  have read : (members.map fun member => (some member.1, member.2)).mapM
      (fun member : Option String × Json => member.1.map fun name => (name, member.2)) =
        some members := by
    clear nodup
    induction members with
    | nil => rfl
    | cons head others ih => simp [ih]
  have once : (names.all fun name => (members.countP fun member => member.1 == name) ≤ 1) = true := by
    rw [List.all_eq_true]
    intro name _
    have count := List.nodup_iff_count_le_one.mp nodup name
    rw [List.count, List.countP_map] at count
    exact decide_eq_true count
  simp only [recordFields?, ofMembers, read, Option.bind_eq_bind, Option.bind_some, once, if_true]

/-- The fields of an object as they were written, empty where a member was removed. -/
theorem recordFields?_without (nodup : (members.map Prod.fst).Nodup) (removed : List String) :
    ((ofMembers members).without removed).recordFields? (members.map Prod.fst) =
      some ⟨true, members.map fun member =>
        if member.1 ∈ removed then none else some member.2⟩ := by
  have kept : ((members.filter fun member => member.1 ∉ removed).map Prod.fst).Nodup :=
    nodup.sublist (List.filter_sublist.map _)
  rw [ofMembers_without, recordFields?_ofMembers kept, List.map_map]
  congr 2
  apply List.map_congr_left
  intro member listed
  by_cases gone : member.1 ∈ removed
  · have missing : (members.filter fun member => member.1 ∉ removed).find? (·.1 == member.1) = none := by
      simp only [List.find?_eq_none, List.mem_filter, decide_eq_true_eq, beq_iff_eq]
      intro other held same
      exact held.2 (same ▸ gone)
    rw [Function.comp_apply, missing, if_pos gone]
    rfl
  · have found := find?_name kept (List.mem_filter.mpr ⟨listed, decide_eq_true gone⟩)
    rw [Function.comp_apply, found, if_neg gone]
    rfl

end Json

section Records

variable {names : List String} {values : List Json}

theorem recordFields?_saved_without (nodup : names.Nodup) (full : names.length = values.length)
    (removed : List String) :
    ((Json.ofMembers (names.zip values)).without removed).recordFields? names =
      some ⟨true, (names.zip values).map fun member =>
        if member.1 ∈ removed then none else some member.2⟩ := by
  have same : (names.zip values).map Prod.fst = names := List.map_fst_zip (by omega)
  have distinct : ((names.zip values).map Prod.fst).Nodup := by rwa [same]
  have read := Json.recordFields?_without distinct removed
  rwa [same] at read

theorem recordFields?_saved (nodup : names.Nodup) (full : names.length = values.length) :
    (Json.ofMembers (names.zip values)).recordFields? names = some ⟨true, values.map some⟩ := by
  have held : (names.zip values).map (some ∘ Prod.snd) = values.map some := by
    rw [← List.map_map, List.map_snd_zip (by omega)]
  have read := recordFields?_saved_without nodup full []
  rw [Json.ofMembers_without_nil] at read
  rw [read, ← held]
  simp [Function.comp_def]

theorem bind_recordFields?_saved (nodup : names.Nodup) (full : names.length = values.length)
    (read : RecordFields → Option α) :
    ((Json.ofMembers (names.zip values)).recordFields? names).bind read =
      read ⟨true, values.map some⟩ := by
  rw [recordFields?_saved nodup full, Option.bind_some]

theorem numberFree_record (free : ∀ value ∈ values, value.NumberFree) :
    (Json.ofMembers (names.zip values)).NumberFree := by
  apply Json.NumberFree.object
  intro member listed
  exact free member.2 (List.of_mem_zip listed).2

end Records

namespace RecordFields

variable [JsonForm α] [LawfulJsonForm α] {fields : RecordFields} {index : Nat} {value default : α}
  {gone : Prop} [Decidable gone]

theorem at?_map (named : Bool) (members : List (String × Json)) (kept : String × Json → Option Json)
    (index : Nat) : (RecordFields.mk named (members.map kept)).at? index =
      members[index]?.bind kept := by
  rw [at?, List.getElem?_map]
  cases members[index]? <;> rfl

theorem required_unless (held : fields.at? index = if gone then none else some (toJson value)) :
    fields.required index = if gone then none else some value := by
  rw [required, held]
  split_ifs
  · rfl
  · exact ofJson?_toJson value

theorem defaulted_unless (held : fields.at? index = if gone then none else some (toJson value)) :
    fields.defaulted index default = some (if gone then default else value) := by
  rw [defaulted, held]
  split_ifs
  · rfl
  · exact ofJson?_toJson value

end RecordFields

theorem bind_unless {gone : Prop} [Decidable gone] (value : α) (next : α → Option β) :
    (if gone then none else some value).bind next = if gone then none else next value := by
  split_ifs <;> rfl

end ReportColumns
