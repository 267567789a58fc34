import ReportColumns.Locale.Tag
/-!
How a tag finds its locale.

Only the part that counts decides, and only up to the case of its letters. A preset's name is looked for
before a language is, so a preset is found by its name even when another one of its language stands in
front of it. Nothing is found outside of the language of the tag.
-/

namespace ReportColumns.Locale

open Text

variable {tag changed : List Char} {locale preset : Locale}

def MeansInvariant (tag : List Char) : Prop := tag = [] ∨ sameIgnoringCase tag "invariant".toList

/-- The preset is called by the tag. The invariant locale has no name and is never called. -/
def Called (preset : Locale) (tag : List Char) : Prop :=
  preset.name ≠ "" ∧ sameIgnoringCase preset.name.toList tag

def Speaks (preset : Locale) (tag : List Char) : Prop :=
  sameIgnoringCase preset.language.toList (languagePart tag)

/-- The locale of a normalized tag: the invariant one, the preset that the tag calls, or else the first one
of its language. -/
inductive Resolves (tag : List Char) : Locale → Prop
  | invariant (asked : MeansInvariant tag) : Resolves tag invariant
  | called {preset : Locale} (special : ¬ MeansInvariant tag) (built_in : preset ∈ presets)
      (called : preset.Called tag) : Resolves tag preset
  | language {preset : Locale} {earlier later : List Locale} (special : ¬ MeansInvariant tag)
      (uncalled : ∀ other ∈ presets, ¬ other.Called tag)
      (listed : presets = earlier ++ preset :: later)
      (first : ∀ other ∈ earlier, ¬ other.Speaks tag) (speaks : preset.Speaks tag) :
      Resolves tag preset

def hyphened (c : Char) : Char := if c = '_' then '-' else c

/-- A change of a tag that changes nothing about what it asks for. -/
inductive Variant (tag : List Char) : List Char → Prop
  | letterCase {changed : List Char} (same : sameIgnoringCase changed tag) : Variant tag changed
  | separators {changed : List Char} (same : changed.map hyphened = tag.map hyphened) :
      Variant tag changed
  | blanks (front back : List Char) (before : ∀ c ∈ front, isBlank c)
      (behind : ∀ c ∈ back, isBlank c) : Variant tag (front ++ tag ++ back)
  | encoding (rest : List Char) : Variant tag (tag ++ '.' :: rest)

theorem toLower_point (c : Char) : c.toLower = '.' ↔ c = '.' :=
  toLower_induction (motive := fun c lower => lower = '.' ↔ c = '.') (fun _ _ => Iff.rfl)
    (by decide) c

theorem toLower_hyphen (c : Char) : c.toLower = '-' ↔ c = '-' :=
  toLower_induction (motive := fun c lower => lower = '-' ↔ c = '-') (fun _ _ => Iff.rfl)
    (by decide) c

theorem isBlank_toLower (c : Char) : isBlank c.toLower = isBlank c :=
  toLower_induction (motive := fun c lower => isBlank lower = isBlank c) (fun _ _ => rfl)
    (by decide) c

theorem hyphened_point (c : Char) : hyphened c = '.' ↔ c = '.' := by
  unfold hyphened
  split
  · rename_i line
    simp [line]
  · rfl

theorem isBlank_hyphened (c : Char) : isBlank (hyphened c) = isBlank c := by
  unfold hyphened
  split
  · rename_i line
    rw [line]
    decide
  · rfl

theorem toLower_hyphened (c : Char) : (hyphened c).toLower = hyphened c.toLower := by
  refine toLower_induction (motive := fun c lower => (hyphened c).toLower = hyphened lower) ?_
    (by decide) c
  intro c own
  unfold hyphened
  split
  · rfl
  · exact own

theorem normalizeTag_eq (tag : List Char) :
    normalizeTag tag = trim (before '.' (tag.map hyphened)) := by
  rw [before_map hyphened_point, trim_map isBlank_hyphened]
  rfl

theorem lowerLetters_normalizeTag (tag : List Char) :
    lowerLetters (normalizeTag tag) = normalizeTag (lowerLetters tag) := by
  have swapped : (tag.map hyphened).map Char.toLower = (tag.map Char.toLower).map hyphened := by
    rw [List.map_map, List.map_map]
    exact List.map_congr_left fun c _ => toLower_hyphened c
  rw [normalizeTag_eq, normalizeTag_eq, lowerLetters, ← trim_map isBlank_toLower,
    ← before_map toLower_point, swapped]
  rfl

theorem normalizeTag_blanks {front back : List Char} (before_tag : ∀ c ∈ front, isBlank c)
    (behind : ∀ c ∈ back, isBlank c) (tag : List Char) :
    normalizeTag (front ++ tag ++ back) = normalizeTag tag := by
  have no_point {blanks : List Char} (blank : ∀ c ∈ blanks, isBlank c) : '.' ∉ blanks := by
    intro found
    exact absurd (blank '.' found) (by decide)
  unfold normalizeTag
  rw [List.append_assoc, before_append_left (no_point before_tag), trim_blank_append before_tag]
  rcases before_append_right (no_point behind) tag with left_off | kept
  · rw [left_off]
  · rw [kept, trim_append_blank behind]

theorem Variant.normalized (variant : Variant tag changed) :
    sameIgnoringCase (normalizeTag changed) (normalizeTag tag) := by
  cases variant with
  | letterCase same =>
    rw [sameIgnoringCase_iff, lowerLetters_normalizeTag, lowerLetters_normalizeTag,
      sameIgnoringCase_iff.mp same]
  | separators same =>
    rw [normalizeTag_eq, normalizeTag_eq, same]
    exact sameIgnoringCase_refl _
  | blanks front back before_tag behind =>
    rw [normalizeTag_blanks before_tag behind]
    exact sameIgnoringCase_refl _
  | encoding rest =>
    rw [normalizeTag, before_append_separator]
    exact sameIgnoringCase_refl _

theorem sameIgnoringCase_languagePart {left right : List Char} (same : sameIgnoringCase left right) :
    sameIgnoringCase (languagePart left) (languagePart right) := by
  rw [sameIgnoringCase_iff] at same ⊢
  rw [languagePart, languagePart, lowerLetters, lowerLetters, ← before_map toLower_hyphen,
    ← before_map toLower_hyphen]
  exact congrArg (before '-') same

theorem ofNormalizedTag?_congr (same : sameIgnoringCase changed tag) :
    ofNormalizedTag? changed = ofNormalizedTag? tag := by
  have lower := sameIgnoringCase_iff.mp same
  have part := sameIgnoringCase_iff.mp (sameIgnoringCase_languagePart same)
  unfold ofNormalizedTag? sameIgnoringCase
  rw [lower, part, isEmpty_of_sameIgnoringCase same]

theorem meansInvariant_iff :
    MeansInvariant tag ↔ (tag.isEmpty || sameIgnoringCase tag "invariant".toList) = true := by
  simp [MeansInvariant]

theorem called_iff : preset.Called tag ↔
    (!preset.isInvariant && sameIgnoringCase preset.name.toList tag) = true := by
  simp [Called, isInvariant]

theorem speaks_iff : preset.Speaks tag ↔
    sameIgnoringCase (languagePart preset.name.toList) (languagePart tag) = true := by
  rw [Speaks, language, String.toList_ofList]

theorem called_unique {other : Locale} (built_in : preset ∈ presets) (built_in' : other ∈ presets)
    (called : preset.Called tag) (called' : other.Called tag) : preset = other := by
  have distinct : ∀ preset ∈ presets, ∀ other ∈ presets,
      sameIgnoringCase preset.name.toList other.name.toList = true → preset = other := by
    decide
  apply distinct preset built_in other built_in'
  rw [sameIgnoringCase_congr called.2, sameIgnoringCase_comm]
  exact called'.2

theorem Called.speaks (called : preset.Called tag) : preset.Speaks tag :=
  speaks_iff.mpr (sameIgnoringCase_languagePart called.2)

theorem Called.special (built_in : preset ∈ presets) (called : preset.Called tag) :
    ¬ MeansInvariant tag := by
  have other : ∀ preset ∈ presets, preset.name ≠ "" → preset.name.toList.isEmpty = false ∧
      sameIgnoringCase preset.name.toList "invariant".toList = false := by
    decide
  obtain ⟨given, no_word⟩ := other preset built_in called.1
  rw [isEmpty_of_sameIgnoringCase called.2] at given
  rw [sameIgnoringCase_congr called.2] at no_word
  rw [meansInvariant_iff, given, no_word]
  decide

theorem called_of_find? (found : (presets.find? fun preset =>
    !preset.isInvariant && sameIgnoringCase preset.name.toList tag) = some preset) :
    preset ∈ presets ∧ preset.Called tag := by
  have asked := List.find?_some found
  exact ⟨List.mem_of_find?_eq_some found, called_iff.mpr asked⟩

theorem find?_called (built_in : preset ∈ presets) (called : preset.Called tag) :
    (presets.find? fun preset => !preset.isInvariant && sameIgnoringCase preset.name.toList tag) =
      some preset := by
  cases found : presets.find? fun preset =>
      !preset.isInvariant && sameIgnoringCase preset.name.toList tag with
  | none => exact absurd (called_iff.mp called) (List.find?_eq_none.mp found preset built_in)
  | some other =>
    obtain ⟨other_built_in, other_called⟩ := called_of_find? found
    rw [called_unique other_built_in built_in other_called called]

theorem ofNormalizedTag?_eq_some_iff :
    ofNormalizedTag? tag = some locale ↔ Resolves tag locale := by
  unfold ofNormalizedTag?
  constructor
  · intro resolved
    split at resolved
    · rename_i asked
      obtain rfl := Option.some.inj resolved
      exact .invariant (meansInvariant_iff.mpr asked)
    · rename_i unasked
      have special : ¬ MeansInvariant tag := fun asked => unasked (meansInvariant_iff.mp asked)
      rcases Option.or_eq_some_iff.mp resolved with by_name | ⟨no_name, by_language⟩
      · obtain ⟨built_in, called⟩ := called_of_find? by_name
        exact .called special built_in called
      · obtain ⟨speaks, earlier, later, listed, first⟩ :=
          List.find?_eq_some_iff_append.mp by_language
        refine .language special ?_ listed ?_ (speaks_iff.mpr speaks)
        · intro other built_in called
          exact List.find?_eq_none.mp no_name other built_in (called_iff.mp called)
        · intro other before other_speaks
          have silent := first other before
          rw [speaks_iff.mp other_speaks] at silent
          cases silent
  · intro resolves
    cases resolves with
    | invariant asked => rw [if_pos (meansInvariant_iff.mp asked)]
    | called special built_in called =>
      rw [if_neg (fun asked => special (meansInvariant_iff.mpr asked)),
        find?_called built_in called, Option.some_or]
    | language special uncalled listed first speaks =>
      have no_name : (presets.find? fun preset =>
          !preset.isInvariant && sameIgnoringCase preset.name.toList tag) = none :=
        List.find?_eq_none.mpr fun other built_in called =>
          uncalled other built_in (called_iff.mpr called)
      rw [if_neg (fun asked => special (meansInvariant_iff.mpr asked)), no_name, Option.none_or]
      refine List.find?_eq_some_iff_append.mpr ⟨speaks_iff.mp speaks, _, _, listed, ?_⟩
      intro other before
      rw [Bool.not_eq_true', Bool.eq_false_iff]
      exact fun other_speaks => first other before (speaks_iff.mpr other_speaks)

/-- Nothing is found just when no preset speaks the language. Being called is no other way out, since a
preset that is called speaks it. -/
theorem ofNormalizedTag?_eq_none_iff :
    ofNormalizedTag? tag = none ↔
      ¬ MeansInvariant tag ∧ ∀ preset ∈ presets, ¬ preset.Speaks tag := by
  unfold ofNormalizedTag?
  constructor
  · intro nothing
    split at nothing
    · cases nothing
    · rename_i unasked
      obtain ⟨-, no_language⟩ := Option.or_eq_none_iff.mp nothing
      refine ⟨fun asked => unasked (meansInvariant_iff.mp asked), ?_⟩
      intro preset built_in speaks
      exact List.find?_eq_none.mp no_language preset built_in (speaks_iff.mp speaks)
  · rintro ⟨special, silent⟩
    rw [if_neg (fun asked => special (meansInvariant_iff.mpr asked)), Option.or_eq_none_iff]
    constructor
    · refine List.find?_eq_none.mpr fun preset built_in called => ?_
      exact silent preset built_in (called_iff.mpr called).speaks
    · refine List.find?_eq_none.mpr fun preset built_in speaks => ?_
      exact silent preset built_in (speaks_iff.mpr speaks)

theorem Resolves.speaks (resolves : Resolves tag locale) (special : ¬ MeansInvariant tag) :
    locale.Speaks tag := by
  cases resolves with
  | invariant asked => exact absurd asked special
  | called _ _ called => exact called.speaks
  | language _ _ _ _ speaks => exact speaks

theorem ofTag_eq_ok_iff {tag : String} :
    ofTag tag = .ok locale ↔ Resolves (normalizeTag tag.toList) locale := by
  rw [← ofNormalizedTag?_eq_some_iff, ofTag]
  cases ofNormalizedTag? (normalizeTag tag.toList) <;> simp

theorem ofTag_eq_error_iff {tag : String} {rejection : UnknownLocale} :
    ofTag tag = .error rejection ↔ rejection = ⟨tag⟩ ∧
      ¬ MeansInvariant (normalizeTag tag.toList) ∧
        ∀ preset ∈ presets, ¬ preset.Speaks (normalizeTag tag.toList) := by
  rw [← ofNormalizedTag?_eq_none_iff, ofTag]
  cases ofNormalizedTag? (normalizeTag tag.toList) with
  | none => simp [eq_comm]
  | some locale => simp

theorem ofTag_of_variant {tag changed : String} (variant : Variant tag.toList changed.toList) :
    (∃ locale, ofTag tag = .ok locale ∧ ofTag changed = .ok locale) ∨
      ofTag tag = .error ⟨tag⟩ ∧ ofTag changed = .error ⟨changed⟩ := by
  have same := ofNormalizedTag?_congr variant.normalized
  unfold ofTag
  rw [same]
  cases ofNormalizedTag? (normalizeTag tag.toList) with
  | none => exact Or.inr ⟨rfl, rfl⟩
  | some locale => exact Or.inl ⟨locale, rfl, rfl⟩

/-- A tag is resolved by the part of it that counts.

* It gives the invariant locale if it asks for it, else the preset that it calls, else the first preset of
  its language. If there is none, it is rejected as it was given.
* A change of its case, of its separators, of the blanks around it or of what follows a point changes
  nothing, except for the text in the rejection.
* What it gives, unless it asks for the invariant locale, has its own language.
* A preset is given to every tag that calls it, whatever stands in front of it in the list. -/
theorem tags_are_resolved_by_what_counts (tag : String) :
    (∀ locale, ofTag tag = .ok locale ↔ Resolves (normalizeTag tag.toList) locale) ∧
    (∀ rejection, ofTag tag = .error rejection ↔ rejection = ⟨tag⟩ ∧
      ¬ MeansInvariant (normalizeTag tag.toList) ∧
        ∀ preset ∈ presets, ¬ preset.Speaks (normalizeTag tag.toList)) ∧
    (∀ changed : String, Variant tag.toList changed.toList →
      (∃ locale, ofTag tag = .ok locale ∧ ofTag changed = .ok locale) ∨
        ofTag tag = .error ⟨tag⟩ ∧ ofTag changed = .error ⟨changed⟩) ∧
    (∀ locale, ofTag tag = .ok locale → ¬ MeansInvariant (normalizeTag tag.toList) →
      locale.Speaks (normalizeTag tag.toList)) ∧
    ∀ preset ∈ presets, preset.Called (normalizeTag tag.toList) → ofTag tag = .ok preset := by
  refine ⟨fun _ => ofTag_eq_ok_iff, fun _ => ofTag_eq_error_iff, fun _ => ofTag_of_variant, ?_, ?_⟩
  · intro locale resolved special
    exact (ofTag_eq_ok_iff.mp resolved).speaks special
  · intro preset built_in called
    exact ofTag_eq_ok_iff.mpr (.called (called.special built_in) built_in called)

theorem tags_are_resolved_by_what_counts_region :
    ofTag "fr_CA" = .ok frFR ∧ ofTag "FR_ca" = .ok frFR ∧ ofTag "fr-CA" = .ok frFR ∧
      ofTag "\tfr_CA " = .ok frFR ∧ ofTag "fr_CA.UTF-8" = .ok frFR ∧
      ofTag " EN_gb.utf8" = .ok enGB := by
  have french : ofTag "fr_CA" = .ok frFR := rfl
  obtain ⟨-, -, alike, -, -⟩ := tags_are_resolved_by_what_counts "fr_CA"
  have unchanged (changed : String) (variant : Variant "fr_CA".toList changed.toList) :
      ofTag changed = .ok frFR := by
    rcases alike changed variant with ⟨locale, given, same⟩ | ⟨failed, -⟩
    · rwa [← french, given]
    · rw [french] at failed
      cases failed
  obtain ⟨-, -, -, -, by_name⟩ := tags_are_resolved_by_what_counts " EN_gb.utf8"
  refine ⟨french, unchanged _ (.letterCase (by decide)), unchanged _ (.separators (by decide)), ?_,
    unchanged _ (.encoding "UTF-8".toList), by_name enGB (by decide) ⟨by decide, by decide⟩⟩
  have solitary {c : Char} (blank : isBlank c) : ∀ other ∈ [c], isBlank other :=
    List.forall_mem_singleton.mpr blank
  exact unchanged _ (.blanks ['\t'] [' '] (solitary (by decide)) (solitary (by decide)))

end ReportColumns.Locale
