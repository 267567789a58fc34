import ReportColumns.Calendar.Date
/-!
The count of days and the calendar.

A date is followed by the next day of its month, else by the first of the next month, else by the first of
January; only the last day of the latest year is followed by none. Main statements: the day number goes up
by one from each date to the next, earlier dates have smaller numbers, and so the difference of two day
numbers counts the days from one date to the other.
-/

namespace ReportColumns.Date

def Before (a b : Date) : Prop :=
  a.year < b.year ∨ a.year = b.year ∧ (a.month < b.month ∨ a.month = b.month ∧ a.day < b.day)

/-- The day after a date: the first of three candidates that exists. -/
def next? (date : Date) : Option Date :=
  (ofParts? date.year date.month (date.day + 1)).or
    ((ofParts? date.year (date.month + 1) 1).or (ofParts? (date.year + 1) 1 1))

def later? : Nat → Date → Option Date
  | 0, date => some date
  | count + 1, date => date.next?.bind (later? count)

/-- Whether so many days lead from one date to another; a negative count leads back. -/
def DaysTo (a b : Date) : Int → Prop
  | .ofNat count => a.later? count = some b
  | .negSucc less => b.later? (less + 1) = some a

variable {a b date next : Date} {year : Int} {month day : Nat}

theorem eq_of_parts (years : a.year = b.year) (months : a.month = b.month) (days : a.day = b.day) :
    a = b := by
  cases a
  cases b
  cases years
  cases months
  cases days
  rfl

theorem before_trichotomy (a b : Date) : a.Before b ∨ a = b ∨ b.Before a := by
  by_cases same : a.year = b.year ∧ a.month = b.month ∧ a.day = b.day
  · exact Or.inr (Or.inl (eq_of_parts same.1 same.2.1 same.2.2))
  · unfold Before
    omega

theorem ofParts?_of_valid (years : earliestYear ≤ year ∧ year ≤ latestYear)
    (months : 1 ≤ month ∧ month ≤ 12) (days : 1 ≤ day ∧ day ≤ daysInMonth year month) :
    ofParts? year month day = some ⟨year, month, day, years, months, days⟩ :=
  dif_pos ⟨years, months, days⟩

theorem ofParts?_of_invalid (invalid : year ≤ latestYear → month ≤ 12 → ¬ day ≤ daysInMonth year month) :
    ofParts? year month day = none :=
  dif_neg fun valid => invalid valid.1.2 valid.2.1.2 valid.2.2.2

theorem daysInMonth_bounds (year : Int) (month : Nat) :
    28 ≤ daysInMonth year month ∧ daysInMonth year month ≤ 31 := by
  unfold daysInMonth
  split
  · split <;> decide
  all_goals decide

theorem daysBeforeMonth_succ (year : Int) (positive : 1 ≤ month) :
    daysBeforeMonth year (month + 1) = daysBeforeMonth year month + daysInMonth year month := by
  cases month with
  | zero => omega
  | succ less => rfl

theorem daysBeforeMonth_mono (year : Int) {later : Nat} (order : month ≤ later) :
    daysBeforeMonth year month ≤ daysBeforeMonth year later := by
  induction order with
  | refl => exact Nat.le_refl _
  | @step later order ih =>
    cases later with
    | zero => exact ih
    | succ less => exact Nat.le_trans ih (Nat.le_add_right _ _)

theorem daysBeforeYear_eq_months (year : Int) :
    daysBeforeYear (year + 1) = daysBeforeYear year + daysBeforeMonth year 13 := by
  have months : daysBeforeMonth year 13 = if isLeapYear year then 366 else 365 := by
    simp only [daysBeforeMonth, daysInMonth]
    split <;> rfl
  rw [daysBeforeYear_succ, months]
  split <;> rfl

theorem daysBeforeYear_mono {later : Int} (order : year ≤ later) :
    daysBeforeYear year ≤ daysBeforeYear later := by
  unfold daysBeforeYear
  omega

theorem dayNumber_lt_month_end (date : Date) :
    date.dayNumber < daysBeforeYear date.year + daysBeforeMonth date.year (date.month + 1) := by
  have bound := date.day_in_range
  rw [daysBeforeMonth_succ _ date.month_in_range.1, dayNumber]
  omega

theorem dayNumber_lt_year_end (date : Date) : date.dayNumber < daysBeforeYear (date.year + 1) := by
  have months : daysBeforeMonth date.year (date.month + 1) ≤ daysBeforeMonth date.year 13 :=
    daysBeforeMonth_mono date.year (Nat.succ_le_succ date.month_in_range.2)
  have inside := date.dayNumber_lt_month_end
  rw [daysBeforeYear_eq_months]
  omega

theorem month_start_le_dayNumber (date : Date) :
    daysBeforeYear date.year + daysBeforeMonth date.year date.month ≤ date.dayNumber := by
  unfold dayNumber
  omega

theorem dayNumber_of_first (first : date.day = 1) :
    date.dayNumber = daysBeforeYear date.year + daysBeforeMonth date.year date.month := by
  rw [dayNumber, first]
  omega

theorem dayNumber_of_last (last : date.day = daysInMonth date.year date.month) :
    date.dayNumber + 1 = daysBeforeYear date.year + daysBeforeMonth date.year (date.month + 1) := by
  have positive := date.day_in_range.1
  rw [daysBeforeMonth_succ _ date.month_in_range.1, dayNumber]
  omega

/-- Earlier dates have smaller day numbers: the first part that differs decides. -/
theorem dayNumber_lt (before : a.Before b) : a.dayNumber < b.dayNumber := by
  have from_start := b.month_start_le_dayNumber
  rcases before with years | ⟨years, months | ⟨months, days⟩⟩
  · have whole_years := daysBeforeYear_mono (Int.add_one_le_of_lt years)
    have inside := a.dayNumber_lt_year_end
    omega
  · have whole_months : daysBeforeMonth b.year (a.month + 1) ≤ daysBeforeMonth b.year b.month :=
      daysBeforeMonth_mono b.year months
    have inside := a.dayNumber_lt_month_end
    rw [years] at inside
    omega
  · have positive := a.day_in_range.1
    unfold dayNumber
    rw [years, months]
    omega

theorem dayNumber_injective (same : a.dayNumber = b.dayNumber) : a = b := by
  rcases before_trichotomy a b with before | equal | after
  · exact absurd same (Int.ne_of_lt (dayNumber_lt before))
  · exact equal
  · exact absurd same.symm (Int.ne_of_lt (dayNumber_lt after))

theorem next?_cases (date : Date) :
    (∃ next, date.next? = some next ∧ next.year = date.year ∧ next.month = date.month ∧
      next.day = date.day + 1) ∨
    (date.day = daysInMonth date.year date.month ∧
      ∃ next, date.next? = some next ∧ next.year = date.year ∧ next.month = date.month + 1 ∧
        next.day = 1) ∨
    (date.day = daysInMonth date.year date.month ∧ date.month = 12 ∧
      ∃ next, date.next? = some next ∧ next.year = date.year + 1 ∧ next.month = 1 ∧ next.day = 1) ∨
    (date.day = daysInMonth date.year date.month ∧ date.month = 12 ∧ date.year = latestYear ∧
      date.next? = none) := by
  have years := date.year_in_range
  have months := date.month_in_range
  have days := date.day_in_range
  have some_day (year : Int) (month : Nat) : 1 ≤ 1 ∧ 1 ≤ daysInMonth year month :=
    ⟨Nat.le_refl 1, Nat.le_trans (by decide) (daysInMonth_bounds year month).1⟩
  by_cases inside : date.day < daysInMonth date.year date.month
  · left
    rw [next?, ofParts?_of_valid years months ⟨Nat.succ_pos _, inside⟩]
    exact ⟨_, rfl, rfl, rfl, rfl⟩
  · have last : date.day = daysInMonth date.year date.month := by omega
    rw [next?, ofParts?_of_invalid fun _ _ => by omega, Option.none_or]
    right
    by_cases before_december : date.month < 12
    · left
      rw [ofParts?_of_valid years ⟨by omega, before_december⟩ (some_day _ _)]
      exact ⟨last, _, rfl, rfl, rfl, rfl⟩
    · have december : date.month = 12 := by omega
      rw [ofParts?_of_invalid fun _ => by omega, Option.none_or]
      right
      by_cases goes_on : date.year < latestYear
      · left
        rw [ofParts?_of_valid ⟨by omega, goes_on⟩ (by decide) (some_day _ _)]
        exact ⟨last, december, _, rfl, rfl, rfl, rfl⟩
      · right
        have latest : date.year = latestYear := by omega
        rw [ofParts?_of_invalid fun inside => by omega]
        exact ⟨last, december, latest, rfl⟩

theorem dayNumber_next (follows : date.next? = some next) : next.dayNumber = date.dayNumber + 1 := by
  rcases date.next?_cases with ⟨found, here, years, months, days⟩ |
    ⟨last, found, here, years, months, first⟩ | ⟨last, december, found, here, years, months, first⟩ |
    ⟨-, -, -, none⟩
  · cases follows.symm.trans here
    have positive := date.day_in_range.1
    rw [dayNumber, dayNumber, years, months, days]
    omega
  · cases follows.symm.trans here
    rw [dayNumber_of_last last, dayNumber_of_first first, years, months]
  · cases follows.symm.trans here
    have new_year : daysBeforeMonth (date.year + 1) 1 = 0 := rfl
    rw [dayNumber_of_last last, dayNumber_of_first first, years, months, december, new_year,
      daysBeforeYear_eq_months]
    exact Int.add_zero _
  · cases follows.symm.trans none

theorem dayNumber_le_of_last (last : date.next? = none) (other : Date) :
    other.dayNumber ≤ date.dayNumber := by
  rcases date.next?_cases with ⟨_, here, -⟩ | ⟨-, _, here, -⟩ | ⟨-, -, _, here, -⟩ |
    ⟨day, december, latest, -⟩
  · cases last.symm.trans here
  · cases last.symm.trans here
  · cases last.symm.trans here
  · have inside := other.dayNumber_lt_year_end
    have years : daysBeforeYear (other.year + 1) ≤ daysBeforeYear (date.year + 1) :=
      daysBeforeYear_mono (by have bound := other.year_in_range.2; omega)
    have year_end := dayNumber_of_last day
    rw [december, ← daysBeforeYear_eq_months] at year_end
    omega

/-- Going on one day at a time leads to the date whose day number is as much larger. -/
theorem later?_eq_some_iff {count : Nat} :
    a.later? count = some b ↔ b.dayNumber = a.dayNumber + count := by
  induction count generalizing a with
  | zero =>
    rw [later?, Option.some.injEq]
    constructor
    · rintro rfl
      omega
    · intro same
      exact dayNumber_injective (by omega)
  | succ count ih =>
    rw [later?]
    cases follows : a.next? with
    | none =>
      have largest := dayNumber_le_of_last follows b
      constructor
      · intro found
        cases found
      · intro beyond
        omega
    | some next =>
      have step := dayNumber_next follows
      rw [Option.bind_some, ih]
      omega

theorem daysTo_iff {count : Int} : a.DaysTo b count ↔ b.dayNumber = a.dayNumber + count := by
  cases count with
  | ofNat count => exact later?_eq_some_iff
  | negSucc less =>
    rw [DaysTo, later?_eq_some_iff]
    omega

end ReportColumns.Date
