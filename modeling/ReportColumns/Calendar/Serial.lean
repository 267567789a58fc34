import ReportColumns.Calendar.DateTime
/-!
Spreadsheet serials: days and fractions of a day since the thirtieth of December 1899. The serial is
the quotient of an exact count of milliseconds and the milliseconds of a day. `serial?` is made in steps
that give nothing if the epoch cannot be put together, and `serial` is what they come to.
-/

namespace ReportColumns

def spreadsheetEpoch? : Option DateTime := do
  return ⟨← Date.ofParts? 1899 12 30, ← TimeOfDay.ofParts? 0 0 0 0⟩

def millisPerDay : Nat := 86400000

namespace DateTime

/-- Whole milliseconds from another moment. What is left of a millisecond is dropped, which moves a moment
towards the other one. -/
def millisFrom (start moment : DateTime) : Int :=
  (moment.nanosSince start.date.dayNumber - start.time.nanoOfDay).tdiv 1000000

def serial? (moment : DateTime) : Option Float := do
  let epoch ← spreadsheetEpoch?
  return Float.ofInt (epoch.millisFrom moment) / Float.ofNat millisPerDay

end DateTime

def spreadsheetEpoch : Date where
  year := 1899
  month := 12
  day := 30
  year_in_range := by decide
  month_in_range := by decide
  day_in_range := by decide

namespace DateTime

def serialMillis (moment : DateTime) : Int :=
  (moment.nanosSince spreadsheetEpoch.dayNumber).tdiv 1000000

def serial (moment : DateTime) : Float :=
  Float.ofInt moment.serialMillis / Float.ofNat millisPerDay

@[simp] theorem serial?_eq (moment : DateTime) : moment.serial? = some moment.serial := by
  have epoch : spreadsheetEpoch? = some ⟨spreadsheetEpoch, .midnight⟩ := by decide
  have start : (TimeOfDay.midnight.nanoOfDay : Int) = 0 := rfl
  have millis : millisFrom ⟨spreadsheetEpoch, .midnight⟩ moment = moment.serialMillis := by
    rw [millisFrom, start, Int.sub_zero, serialMillis]
  rw [serial?, epoch, Option.bind_eq_bind, Option.bind_some, millis]
  rfl

end DateTime

end ReportColumns
