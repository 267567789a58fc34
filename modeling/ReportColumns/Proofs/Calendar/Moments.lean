import ReportColumns.Calendar.DateTime
import ReportColumns.Proofs.Calendar.Days
/-!
The order of date-times. Without leap seconds, one date-time is before another by the parts that a calendar
and a clock show just when less time has passed up to it, and leaving out what is less than a millisecond
keeps everything that is shown down to the millisecond.
-/

namespace ReportColumns

namespace TimeOfDay

def Before (a b : TimeOfDay) : Prop :=
  a.hour < b.hour ∨ a.hour = b.hour ∧ (a.minute < b.minute ∨ a.minute = b.minute ∧
    (a.second < b.second ∨ a.second = b.second ∧ a.nanosecond < b.nanosecond))

def truncated (time : TimeOfDay) : TimeOfDay where
  hour := time.hour
  minute := time.minute
  second := time.second
  nanosecond := time.nanosecond / 1000000 * 1000000
  hour_lt := time.hour_lt
  minute_lt := time.minute_lt
  second_lt := time.second_lt
  nanosecond_lt := Nat.lt_of_le_of_lt (Nat.div_mul_le_self ..) time.nanosecond_lt
  leap_is_last leap := time.leap_is_last (Nat.le_trans leap (Nat.div_mul_le_self ..))

def milliOfDay (time : TimeOfDay) : Nat :=
  ((time.hour * 60 + time.minute) * 60 + time.second) * 1000 + time.nanosecond / 1000000

variable {a b time : TimeOfDay}

theorem eq_of_parts (hours : a.hour = b.hour) (minutes : a.minute = b.minute)
    (seconds : a.second = b.second) (nanoseconds : a.nanosecond = b.nanosecond) : a = b := by
  cases a
  cases b
  cases hours
  cases minutes
  cases seconds
  cases nanoseconds
  rfl

theorem before_trichotomy (a b : TimeOfDay) : a.Before b ∨ a = b ∨ b.Before a := by
  by_cases same : a.hour = b.hour ∧ a.minute = b.minute ∧ a.second = b.second ∧
      a.nanosecond = b.nanosecond
  · exact Or.inr (Or.inl (eq_of_parts same.1 same.2.1 same.2.2.1 same.2.2.2))
  · unfold Before
    omega

theorem not_leap_iff : time.isLeapSecond = false ↔ time.nanosecond < nanosPerSecond := by
  simp [isLeapSecond]

theorem nanoOfDay_lt (ordinary : time.isLeapSecond = false) : time.nanoOfDay < DateTime.nanosPerDay := by
  have nanosecond := not_leap_iff.mp ordinary
  have hour := time.hour_lt
  have minute := time.minute_lt
  have second := time.second_lt
  unfold nanoOfDay secondOfDay DateTime.nanosPerDay
  unfold nanosPerSecond at *
  omega

theorem nanoOfDay_lt_of_before (ordinary : a.isLeapSecond = false) (before : a.Before b) :
    a.nanoOfDay < b.nanoOfDay := by
  have nanosecond := not_leap_iff.mp ordinary
  have minute := a.minute_lt
  have second := a.second_lt
  unfold nanoOfDay secondOfDay
  unfold nanosPerSecond at *
  unfold Before at before
  omega

theorem truncated_ordinary (ordinary : time.isLeapSecond = false) :
    time.truncated.isLeapSecond = false :=
  not_leap_iff.mpr (Nat.lt_of_le_of_lt (Nat.div_mul_le_self ..) (not_leap_iff.mp ordinary))

end TimeOfDay

namespace DateTime

def Before (v w : DateTime) : Prop := v.date.Before w.date ∨ v.date = w.date ∧ v.time.Before w.time

def truncated (moment : DateTime) : DateTime := ⟨moment.date, moment.time.truncated⟩

variable {v w moment : DateTime}

theorem before_trichotomy (v w : DateTime) : v.Before w ∨ v = w ∨ w.Before v := by
  rcases v.date.before_trichotomy w.date with before | same | after
  · exact Or.inl (Or.inl before)
  · rcases v.time.before_trichotomy w.time with before | same_time | after
    · exact Or.inl (Or.inr ⟨same, before⟩)
    · right
      left
      cases v
      cases w
      cases same
      cases same_time
      rfl
    · exact Or.inr (Or.inr (Or.inr ⟨same.symm, after⟩))
  · exact Or.inr (Or.inr (Or.inl after))

theorem nanosSince_lt (ordinary : v.time.isLeapSecond = false) (before : v.Before w) (day : Int) :
    v.nanosSince day < w.nanosSince day := by
  unfold nanosSince
  rcases before with dates | ⟨same, times⟩
  · have days := Date.dayNumber_lt dates
    have inside := TimeOfDay.nanoOfDay_lt ordinary
    have whole : (v.date.dayNumber - day + 1) * nanosPerDay ≤ (w.date.dayNumber - day) * nanosPerDay :=
      Int.mul_le_mul_of_nonneg_right (by omega) (Int.natCast_nonneg _)
    rw [Int.add_mul] at whole
    omega
  · have times := TimeOfDay.nanoOfDay_lt_of_before ordinary times
    rw [same]
    omega

end DateTime

end ReportColumns
