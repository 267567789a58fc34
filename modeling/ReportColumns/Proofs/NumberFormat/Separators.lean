import ReportColumns.Locale.Preset
import ReportColumns.Proofs.NumberFormat.Characters
/-!
The separators of a locale in numeric text.

A locale that has two characters foreign to numeric text for its separators shows them exactly where the
separators belong. The text of any locale is found by writing its own separators over them.
-/

namespace ReportColumns

namespace Locale

/-- The locale with two marks for its separators. -/
def marked (locale : Locale) (decimal group : Char) : Locale :=
  { locale with
    decimalSeparator := String.singleton decimal
    groupSeparator := String.singleton group }

/-- A text with the separators of the locale in the places of two marks. -/
def overMarks (locale : Locale) (decimal group : Char) (text : String) : String :=
  String.ofList <| text.toList.flatMap fun c =>
    if c = decimal then locale.decimalSeparator.toList
    else if c = group then locale.groupSeparator.toList
    else [c]

variable {locale : Locale} {decimal group : Char} {glyphs : List Glyph}

theorem overMarks_written (distinct : decimal ≠ group)
    (unmarked : ShowsOnly (fun c => c ≠ decimal ∧ c ≠ group) glyphs) :
    locale.overMarks decimal group
        (String.ofList (writeGlyphs (locale.marked decimal group) glyphs)) =
      String.ofList (writeGlyphs locale glyphs) := by
  unfold overMarks
  rw [String.toList_ofList]
  congr 1
  induction glyphs with
  | nil => rfl
  | cons glyph rest ih =>
    have later := ih fun c found => unmarked c (List.mem_cons_of_mem _ found)
    simp only [writeGlyphs, List.flatMap_cons, List.flatMap_append] at later ⊢
    rw [later]
    congr 1
    -- No character is taken for a mark, and neither mark for the other.
    cases glyph with
    | char c =>
      obtain ⟨not_decimal, not_group⟩ := unmarked c List.mem_cons_self
      simp [Glyph.write, not_decimal, not_group]
    | decimalMark => simp [Glyph.write, marked]
    | groupMark => simp [Glyph.write, marked, distinct.symm]

theorem overMarks_formatAmount {format : String} (distinct : decimal ≠ group)
    (unmarked : ∀ c, IsNumberChar c ∨ c ∈ format.toList ∨ c ∈ locale.currencySymbol.toList →
      c ≠ decimal ∧ c ≠ group) (amount : Amount) :
    (formatAmount amount format (locale.marked decimal group)).map (locale.overMarks decimal group) =
      formatAmount amount format locale := by
  have same_symbol : (locale.marked decimal group).currency = locale.currency := rfl
  rw [formatAmount, formatAmount, same_symbol]
  cases drawn : amountGlyphs format locale.currency amount with
  | error cause => rfl
  | ok glyphs =>
    exact congrArg Except.ok (overMarks_written distinct ((amountGlyphs_show drawn).mono unmarked))

end Locale

/-- The texts of the separators are all that glyphs take from a locale. -/
theorem writeGlyphs_congr {locale other : Locale}
    (decimal : other.decimalSeparator = locale.decimalSeparator)
    (group : other.groupSeparator = locale.groupSeparator) (glyphs : List Glyph) :
    writeGlyphs other glyphs = writeGlyphs locale glyphs := by
  have each : Glyph.write other = Glyph.write locale := by
    funext glyph
    cases glyph with
    | char c => rfl
    | decimalMark => rw [Glyph.write, Glyph.write, decimal]
    | groupMark => rw [Glyph.write, Glyph.write, group]
  rw [writeGlyphs, writeGlyphs, each]

/-- A locale and the same locale with two marks for its separators reject the same formats for the same
cause, and where they show a text, writing the separators over the marks gives the one from the other. The
marks are two characters that are not used to write numbers and stand neither in the format nor in the
currency symbol. Of the rest of a locale, numeric text takes the currency symbol and its position only. -/
theorem separators_are_written_over_marks (locale : Locale) (format : String) (amount : Amount) :
    (∀ decimal group : Char, decimal ≠ group →
      (∀ mark ∈ [decimal, group], ¬ IsNumberChar mark ∧ mark ∉ format.toList ∧
        mark ∉ locale.currencySymbol.toList) →
      let marked := locale.marked decimal group
      let overMarks := locale.overMarks decimal group
      let pattern := Pattern.parse format.toList
      formatAmount amount format locale = (formatAmount amount format marked).map overMarks ∧
        pattern.format amount locale = overMarks (pattern.format amount marked)) ∧
    ∀ other : Locale, other.decimalSeparator = locale.decimalSeparator →
      other.groupSeparator = locale.groupSeparator →
      other.currencySymbol = locale.currencySymbol →
      other.currencyPosition = locale.currencyPosition →
        formatAmount amount format other = formatAmount amount format locale ∧
          ∀ pattern : Pattern, pattern.format amount other = pattern.format amount locale := by
  constructor
  · intro decimal group distinct apart marked overMarks pattern
    have unmarked (c : Char) (used : IsNumberChar c ∨ c ∈ format.toList ∨
        c ∈ locale.currencySymbol.toList) : c ≠ decimal ∧ c ≠ group := by
      have unused (mark : Char) (listed : mark ∈ [decimal, group]) : c ≠ mark := by
        rintro rfl
        obtain ⟨no_number, no_format, no_symbol⟩ := apart c listed
        rcases used with number | written | symbol
        · exact no_number number
        · exact no_format written
        · exact no_symbol symbol
      exact ⟨unused decimal (by simp), unused group (by simp)⟩
    constructor
    · exact (Locale.overMarks_formatAmount distinct unmarked amount).symm
    · refine (Locale.overMarks_written distinct ((Pattern.glyphs_show _ amount).mono ?_)).symm
      exact fun c used => unmarked c (used.imp_right Or.inl)
  · intro other same_decimal same_group same_symbol same_position
    have currency : other.currency = locale.currency := by
      rw [Locale.currency, Locale.currency, same_symbol, same_position]
    have written := writeGlyphs_congr same_decimal same_group
    constructor
    · rw [formatAmount, formatAmount, currency]
      simp only [written]
    · intro pattern
      rw [Pattern.format, Pattern.format, written]

theorem separators_are_written_over_marks_odd :
    formatAmount (.integer 1234567) "C1" (Locale.marked .enUS '|' '~') = .ok "$1~234~567|0" ∧
      formatAmount (.integer 1234567) "C1"
        { Locale.enUS with decimalSeparator := "12", groupSeparator := "" } = .ok "$1234567120" ∧
      formatAmount (.integer 1234567) "C1"
        { Locale.enGB with decimalSeparator := "12", groupSeparator := "", currencySymbol := "$" } =
          .ok "$1234567120" := by
  have shown : formatAmount (.integer 1234567) "C1" (Locale.marked .enUS '|' '~') =
      .ok "$1~234~567|0" := rfl
  obtain ⟨marks, same⟩ := separators_are_written_over_marks
    { Locale.enUS with decimalSeparator := "12", groupSeparator := "" } "C1" (.integer 1234567)
  obtain ⟨substituted, -⟩ := marks '|' '~' (by decide)
    (List.forall_mem_cons.mpr ⟨by decide, List.forall_mem_singleton.mpr (by decide)⟩)
  have written : formatAmount (.integer 1234567) "C1"
      { Locale.enUS with decimalSeparator := "12", groupSeparator := "" } = .ok "$1234567120" :=
    substituted.trans (congrArg (Except.map _) shown)
  obtain ⟨other, -⟩ := same
    { Locale.enGB with decimalSeparator := "12", groupSeparator := "", currencySymbol := "$" }
    rfl rfl rfl rfl
  exact ⟨shown, written, other.trans written⟩

end ReportColumns
