import ReportColumns.Calendar.Serial
import ReportColumns.Proofs.Calendar.Moments
import ReportColumns.Proofs.Decimal.Integers
/-!
Spreadsheet serials as counts.

Main statement: the integer behind a serial counts the milliseconds of the days from the epoch to a date and
of its day, so that it grows with time, and it is small enough to be a floating-point number. What is less
than a millisecond is dropped towards the epoch.
-/

namespace ReportColumns

open Decimal

namespace DateTime

structure IsWhole (moment : DateTime) : Prop where
  ordinary : moment.time.isLeapSecond = false
  whole : moment.time.nanosecond % 1000000 = 0

def epochDays (moment : DateTime) : Int := moment.date.dayNumber - spreadsheetEpoch.dayNumber

def milliCount (moment : DateTime) : Int := 86400000 * moment.epochDays + moment.time.milliOfDay

variable {v w moment : DateTime}

theorem epochDays_spec (moment : DateTime) : spreadsheetEpoch.DaysTo moment.date moment.epochDays := by
  rw [Date.daysTo_iff, epochDays]
  omega

theorem nanosSince_epoch (moment : DateTime) :
    moment.nanosSince spreadsheetEpoch.dayNumber =
      1000000 * moment.milliCount + (moment.time.nanosecond % 1000000 : Nat) := by
  have days : moment.date.dayNumber - spreadsheetEpoch.dayNumber = moment.epochDays := rfl
  have day : nanosPerDay = 86400000000000 := rfl
  rw [nanosSince, days, day, milliCount, TimeOfDay.nanoOfDay, TimeOfDay.secondOfDay,
    TimeOfDay.milliOfDay, nanosPerSecond]
  omega

theorem serialMillis_of_whole (whole : moment.IsWhole) : moment.serialMillis = moment.milliCount := by
  rw [serialMillis, nanosSince_epoch, whole.whole, Int.natCast_zero, Int.add_zero]
  exact Int.mul_tdiv_cancel_left _ (by decide)

theorem milliOfDay_lt (time : TimeOfDay) :
    time.milliOfDay < 86402000 ∧ (time.isLeapSecond = false → time.milliOfDay < 86400000) := by
  have hour := time.hour_lt
  have minute := time.minute_lt
  have second := time.second_lt
  have nanosecond := time.nanosecond_lt
  rw [TimeOfDay.not_leap_iff, TimeOfDay.milliOfDay]
  unfold nanosPerSecond at *
  omega

theorem milliCount_truncated (moment : DateTime) : moment.truncated.milliCount = moment.milliCount := by
  have kept : moment.truncated.time.milliOfDay = moment.time.milliOfDay := by
    have same : moment.time.nanosecond / 1000000 * 1000000 / 1000000 =
        moment.time.nanosecond / 1000000 := Nat.mul_div_cancel _ (by decide)
    unfold TimeOfDay.milliOfDay truncated TimeOfDay.truncated
    rw [same]
  have same_day : moment.truncated.epochDays = moment.epochDays := rfl
  rw [milliCount, milliCount, kept, same_day]

theorem truncated_isWhole (ordinary : moment.time.isLeapSecond = false) : moment.truncated.IsWhole :=
  ⟨TimeOfDay.truncated_ordinary ordinary, Nat.mul_mod_left _ _⟩

theorem serialMillis_truncated (ordinary : moment.time.isLeapSecond = false) :
    moment.truncated.serialMillis = moment.milliCount := by
  rw [serialMillis_of_whole (truncated_isWhole ordinary), milliCount_truncated]

theorem epochDays_neg_iff : moment.epochDays < 0 ↔ moment.date.Before spreadsheetEpoch := by
  unfold epochDays
  constructor
  · intro negative
    rcases moment.date.before_trichotomy spreadsheetEpoch with before | same | after
    · exact before
    · rw [same] at negative
      omega
    · have later := Date.dayNumber_lt after
      omega
  · intro before
    have earlier := Date.dayNumber_lt before
    omega

theorem serialMillis_of_after (after : ¬ moment.date.Before spreadsheetEpoch) :
    moment.serialMillis = moment.milliCount := by
  have days : 0 ≤ moment.epochDays := Int.not_lt.mp (mt epochDays_neg_iff.mp after)
  have passed := nanosSince_epoch moment
  have nonneg : 0 ≤ moment.milliCount := by
    unfold milliCount
    omega
  rw [serialMillis, Int.tdiv_eq_ediv_of_nonneg (by omega)]
  omega

theorem serialMillis_of_nonpos (before : moment.nanosSince spreadsheetEpoch.dayNumber ≤ 0) :
    moment.serialMillis = -((-moment.nanosSince spreadsheetEpoch.dayNumber) / 1000000) := by
  -- The quotient is cut off on the side of zero, so a negative count is divided without its sign.
  rw [← Int.tdiv_eq_ediv_of_nonneg (by omega), Int.neg_tdiv, Int.neg_neg, serialMillis]

theorem serialMillis_of_before (ordinary : moment.time.isLeapSecond = false)
    (before : moment.date.Before spreadsheetEpoch) (part : moment.time.nanosecond % 1000000 ≠ 0) :
    moment.serialMillis = moment.milliCount + 1 := by
  have days : moment.epochDays < 0 := epochDays_neg_iff.mpr before
  have inside := (milliOfDay_lt moment.time).2 ordinary
  have passed := nanosSince_epoch moment
  have negative : moment.milliCount < 0 := by
    unfold milliCount
    omega
  rw [serialMillis_of_nonpos (by omega)]
  omega

theorem serialMillis_lt (whole : v.IsWhole) (whole' : w.IsWhole) (before : v.Before w) :
    v.serialMillis < w.serialMillis := by
  have passed := nanosSince_lt whole.ordinary before spreadsheetEpoch.dayNumber
  rw [nanosSince_epoch, nanosSince_epoch, whole.whole, whole'.whole] at passed
  rw [serialMillis_of_whole whole, serialMillis_of_whole whole']
  omega

theorem before_iff_serialMillis_lt (whole : v.IsWhole) (whole' : w.IsWhole) :
    v.Before w ↔ v.serialMillis < w.serialMillis := by
  constructor
  · exact serialMillis_lt whole whole'
  · intro less
    rcases v.before_trichotomy w with before | rfl | after
    · exact before
    · exact absurd less (Int.lt_irrefl _)
    · have more := serialMillis_lt whole' whole after
      omega

theorem serialMillis_next {next : Date} (whole : moment.IsWhole)
    (follows : moment.date.next? = some next) :
    serialMillis ⟨next, moment.time⟩ = moment.serialMillis + 86400000 := by
  have whole' : IsWhole ⟨next, moment.time⟩ := ⟨whole.ordinary, whole.whole⟩
  have step := Date.dayNumber_next follows
  rw [serialMillis_of_whole whole, serialMillis_of_whole whole']
  unfold milliCount epochDays
  dsimp only
  omega

theorem epochDays_bounds (moment : DateTime) :
    -96439723 ≤ moment.epochDays ∧ moment.epochDays < 95051806 := by
  obtain ⟨earliest, latest⟩ := moment.date.year_in_range
  have first : Date.daysBeforeYear earliestYear ≤ Date.daysBeforeYear moment.date.year :=
    Date.daysBeforeYear_mono earliest
  have last : Date.daysBeforeYear (moment.date.year + 1) ≤ Date.daysBeforeYear (latestYear + 1) :=
    Date.daysBeforeYear_mono (by omega)
  have from_start := moment.date.month_start_le_dayNumber
  have inside := moment.date.dayNumber_lt_year_end
  have epoch : spreadsheetEpoch.dayNumber = 693959 := by decide
  have before_first : Date.daysBeforeYear earliestYear = -95745764 := by decide
  have before_last : Date.daysBeforeYear (latestYear + 1) = 95745765 := by decide
  unfold epochDays
  omega

theorem serialMillis_natAbs_lt (moment : DateTime) : moment.serialMillis.natAbs < 2 ^ 53 := by
  obtain ⟨earliest, latest⟩ := moment.epochDays_bounds
  have inside := (milliOfDay_lt moment.time).1
  have passed := nanosSince_epoch moment
  have size : moment.serialMillis.natAbs =
      (moment.nanosSince spreadsheetEpoch.dayNumber).natAbs / 1000000 := Int.natAbs_tdiv _ _
  unfold milliCount at passed
  omega

theorem serialMillis_held (moment : DateTime) :
    (Int64.ofInt moment.serialMillis).toInt = moment.serialMillis ∧
      (Binary.ofFloat (Float.ofInt moment.serialMillis)).value? = some (moment.serialMillis : ℚ) := by
  have bound := moment.serialMillis_natAbs_lt
  constructor
  · exact Int64.toInt_ofInt_of_le (by omega) (by omega)
  · exact ofInt_value bound

theorem seconds_held (moment : DateTime) :
    (Int64.ofInt (moment.nanosSince spreadsheetEpoch.dayNumber / 1000000000)).toInt =
      moment.nanosSince spreadsheetEpoch.dayNumber / 1000000000 := by
  obtain ⟨earliest, latest⟩ := moment.epochDays_bounds
  have inside := (milliOfDay_lt moment.time).1
  have passed := nanosSince_epoch moment
  unfold milliCount at passed
  exact Int64.toInt_ofInt_of_le (by omega) (by omega)

/-- Serials rest on an exact count of milliseconds. It is made of the days from the epoch and the time of
day, so it grows with time and by a day of milliseconds from each date to the next. It is never too large to be
held exactly, what is less than a millisecond is dropped towards the epoch, and there always is a serial. -/
theorem serials_count_milliseconds :
    (∀ moment : DateTime, moment.IsWhole →
      (∃ days, spreadsheetEpoch.DaysTo moment.date days ∧
        moment.serialMillis = 86400000 * days + moment.time.milliOfDay) ∧
      (∀ other : DateTime, other.IsWhole →
        (moment.Before other ↔ moment.serialMillis < other.serialMillis)) ∧
      (∀ next, moment.date.next? = some next →
        serialMillis ⟨next, moment.time⟩ = moment.serialMillis + 86400000)) ∧
    (∀ moment : DateTime,
      moment.serialMillis.natAbs < 2 ^ 53 ∧
      (Binary.ofFloat (Float.ofInt moment.serialMillis)).value? = some (moment.serialMillis : ℚ) ∧
      (Int64.ofInt moment.serialMillis).toInt = moment.serialMillis ∧
      (Int64.ofInt (moment.nanosSince spreadsheetEpoch.dayNumber / 1000000000)).toInt =
        moment.nanosSince spreadsheetEpoch.dayNumber / 1000000000 ∧
      moment.serial? = some (Float.ofInt moment.serialMillis / Float.ofNat 86400000)) ∧
    (∀ moment : DateTime, moment.time.isLeapSecond = false →
      (¬ moment.date.Before spreadsheetEpoch → moment.serialMillis = moment.truncated.serialMillis) ∧
      (moment.date.Before spreadsheetEpoch → moment.time.nanosecond % 1000000 ≠ 0 →
        moment.serialMillis = moment.truncated.serialMillis + 1)) := by
  refine ⟨?_, ?_, ?_⟩
  · intro moment whole
    refine ⟨⟨moment.epochDays, moment.epochDays_spec, serialMillis_of_whole whole⟩, ?_, ?_⟩
    · intro other whole'
      exact before_iff_serialMillis_lt whole whole'
    · intro next follows
      exact serialMillis_next whole follows
  · intro moment
    obtain ⟨held, exact_value⟩ := moment.serialMillis_held
    exact ⟨moment.serialMillis_natAbs_lt, exact_value, held, moment.seconds_held, moment.serial?_eq⟩
  · intro moment ordinary
    rw [serialMillis_truncated ordinary]
    exact ⟨serialMillis_of_after, serialMillis_of_before ordinary⟩

theorem serials_count_milliseconds_around_the_epoch :
    let time : TimeOfDay := ⟨23, 59, 59, 999000000, by decide, by decide, by decide, by decide, by decide⟩
    let february : DateTime := ⟨⟨1900, 2, 28, by decide, by decide, by decide⟩, time⟩
    let march : Date := ⟨1900, 3, 1, by decide, by decide, by decide⟩
    let late : DateTime := ⟨⟨1899, 12, 29, by decide, by decide, by decide⟩,
      ⟨23, 59, 59, 999500000, by decide, by decide, by decide, by decide, by decide⟩⟩
    february.IsWhole ∧ february.date.next? = some march ∧
      serialMillis ⟨march, time⟩ = february.serialMillis + 86400000 ∧
      february.Before ⟨march, time⟩ ∧
      late.serialMillis = late.truncated.serialMillis + 1 ∧ late.serialMillis = 0 := by
  intro time february march late
  have whole : february.IsWhole := ⟨by decide, by decide⟩
  have whole' : IsWhole ⟨march, time⟩ := ⟨by decide, by decide⟩
  have follows : february.date.next? = some march := by decide
  obtain ⟨counts, -, drops⟩ := serials_count_milliseconds
  obtain ⟨-, grows, steps⟩ := counts february whole
  refine ⟨whole, follows, steps march follows, (grows _ whole').mpr (by decide), ?_, by decide⟩
  exact (drops late (by decide)).2 (Or.inr ⟨rfl, Or.inr ⟨rfl, by decide⟩⟩) (by decide)

end DateTime

end ReportColumns
