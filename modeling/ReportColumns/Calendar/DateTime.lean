import ReportColumns.Calendar.Date
/-!
Times of day and date-times without a time zone. A leap second is kept as the second before it with a
full second more of nanoseconds.
-/

namespace ReportColumns

def nanosPerSecond : Nat := 1000000000

structure TimeOfDay where
  hour : Nat
  minute : Nat
  second : Nat
  nanosecond : Nat
  hour_lt : hour < 24
  minute_lt : minute < 60
  second_lt : second < 60
  nanosecond_lt : nanosecond < 2 * nanosPerSecond
  /-- Only the last second of a minute can be followed by a leap second. -/
  leap_is_last : nanosPerSecond ≤ nanosecond → second = 59
  deriving DecidableEq, Repr

namespace TimeOfDay

def midnight : TimeOfDay where
  hour := 0
  minute := 0
  second := 0
  nanosecond := 0
  hour_lt := by decide
  minute_lt := by decide
  second_lt := by decide
  nanosecond_lt := by decide
  leap_is_last := by decide

/-- A time from its written parts. The second may be written as 60, which is a leap second. -/
def ofParts? (hour minute second nanosecond : Nat) : Option TimeOfDay :=
  if h : hour < 24 ∧ minute < 60 ∧ second ≤ 60 ∧ nanosecond < nanosPerSecond then
    if leap : second = 60 then
      some {
        hour, minute, second := 59, nanosecond := nanosPerSecond + nanosecond
        hour_lt := h.1
        minute_lt := h.2.1
        second_lt := by decide
        nanosecond_lt := by omega
        leap_is_last := fun _ => rfl }
    else
      some {
        hour, minute, second, nanosecond
        hour_lt := h.1
        minute_lt := h.2.1
        second_lt := by omega
        nanosecond_lt := by omega
        leap_is_last := by omega }
  else none

def isLeapSecond (time : TimeOfDay) : Bool := nanosPerSecond ≤ time.nanosecond

def writtenSecond (time : TimeOfDay) : Nat :=
  if time.isLeapSecond then time.second + 1 else time.second

def writtenNanosecond (time : TimeOfDay) : Nat := time.nanosecond % nanosPerSecond

def secondOfDay (time : TimeOfDay) : Nat := 3600 * time.hour + 60 * time.minute + time.second

def nanoOfDay (time : TimeOfDay) : Nat := nanosPerSecond * time.secondOfDay + time.nanosecond

def clockHour (time : TimeOfDay) : Nat := if time.hour % 12 = 0 then 12 else time.hour % 12

def millisecond (time : TimeOfDay) : Nat := time.nanosecond / 1000000 % 1000

end TimeOfDay

structure DateTime where
  date : Date
  time : TimeOfDay
  deriving DecidableEq, Repr

namespace DateTime

def nanosPerDay : Nat := 86400 * nanosPerSecond

/-- Nanoseconds from midnight of a day given by its number. -/
def nanosSince (dayNumber : Int) (moment : DateTime) : Int :=
  (moment.date.dayNumber - dayNumber) * nanosPerDay + moment.time.nanoOfDay

end DateTime

end ReportColumns
