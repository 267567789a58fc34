/-!
Dates of the proleptic Gregorian calendar, which has a year zero, and their position on a continuous
count of days.
-/

namespace ReportColumns

def isLeapYear (year : Int) : Bool := year % 4 = 0 && (year % 100 ≠ 0 || year % 400 = 0)

def daysInMonth (year : Int) (month : Nat) : Nat :=
  match month with
  | 2 => if isLeapYear year then 29 else 28
  | 4 | 6 | 9 | 11 => 30
  | _ => 31

def earliestYear : Int := -262143

def latestYear : Int := 262142

structure Date where
  year : Int
  month : Nat
  day : Nat
  year_in_range : earliestYear ≤ year ∧ year ≤ latestYear
  month_in_range : 1 ≤ month ∧ month ≤ 12
  day_in_range : 1 ≤ day ∧ day ≤ daysInMonth year month
  deriving DecidableEq, Repr

namespace Date

def ofParts? (year : Int) (month day : Nat) : Option Date :=
  if h : (earliestYear ≤ year ∧ year ≤ latestYear) ∧ (1 ≤ month ∧ month ≤ 12) ∧
      (1 ≤ day ∧ day ≤ daysInMonth year month) then
    some ⟨year, month, day, h.1, h.2.1, h.2.2⟩
  else none

def daysBeforeYear (year : Int) : Int :=
  365 * year + (year + 3) / 4 - (year + 99) / 100 + (year + 399) / 400

def daysBeforeMonth (year : Int) : Nat → Nat
  | 0 => 0
  | 1 => 0
  | month + 2 => daysBeforeMonth year (month + 1) + daysInMonth year (month + 1)

def dayNumber (date : Date) : Int :=
  daysBeforeYear date.year + daysBeforeMonth date.year date.month + (date.day - 1 : Nat)

/-- Days after the last Monday. Year zero began on a Saturday. -/
def weekday (date : Date) : Nat := ((date.dayNumber + 5) % 7).toNat

theorem daysBeforeYear_succ (year : Int) :
    daysBeforeYear (year + 1) = daysBeforeYear year + (if isLeapYear year then 366 else 365) := by
  have rule : isLeapYear year = true ↔ year % 4 = 0 ∧ (year % 100 ≠ 0 ∨ year % 400 = 0) := by
    simp [isLeapYear]
  by_cases leap : isLeapYear year = true
  · have divides := rule.1 leap
    simp only [daysBeforeYear, leap, if_true]
    omega
  · have skips := mt rule.2 leap
    have hundred : year % 100 = 0 → year % 4 = 0 := by omega
    have cycle : year % 400 = 0 → year % 100 = 0 := by omega
    rcases Classical.em (year % 4 = 0) with four | four
    · have century : year % 100 = 0 ∧ year % 400 ≠ 0 := by omega
      simp only [daysBeforeYear, leap, Bool.false_eq_true, if_false]
      omega
    · have common : year % 100 ≠ 0 ∧ year % 400 ≠ 0 := by omega
      simp only [daysBeforeYear, leap, Bool.false_eq_true, if_false]
      omega

end Date

end ReportColumns
