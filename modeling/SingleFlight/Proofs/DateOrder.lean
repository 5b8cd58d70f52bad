import Mathlib.Tactic.Common
import SingleFlight.Proofs.Days
import SingleFlight.Time.Timestamp

/-!
Dates in the order of days. Main statements: every day has a date of the calendar, a later second has a later
UTC form, and a UTC form names the second that it was made of.
-/

namespace SingleFlight.Time

namespace Date

/-- A leap day is the last day of the year that ends in February. -/
theorem marchStart_next (year : Int) :
    marchStart (year + 1) = marchStart year + 365 + if isLeapYear (year + 1) then 1 else 0 := by
  unfold marchStart isLeapYear
  simp only [Bool.and_eq_true, Bool.or_eq_true, decide_eq_true_eq]
  split <;> omega

/-- Whether a date is before another one: the year decides, then the month, then the day. -/
def Precedes (first second : Date) : Prop :=
  first.year < second.year ∨ first.year = second.year ∧
    (first.month < second.month ∨ first.month = second.month ∧ first.day < second.day)

/-- A later day has a later date. -/
theorem ofDayNumber_precedes {first second : Int} (before : first < second) :
    (ofDayNumber first).Precedes (ofDayNumber second) := by
  obtain ⟨firstYear, firstDay, firstInYear, firstCounted, firstEnds, firstDate⟩ := ofDayNumber_march first
  obtain ⟨secondYear, secondDay, secondInYear, secondCounted, secondEnds, secondDate⟩ := ofDayNumber_march second
  have ordered : firstYear ≤ secondYear := by
    by_contra later
    have behind := marchStart_mono (show secondYear + 1 ≤ firstYear by omega)
    omega
  obtain ⟨firstMonth, _, firstStarts, firstLast, firstMonths, firstLow, firstHigh, firstIs⟩ :=
    ofMarchDay_parts firstYear firstInYear
  obtain ⟨secondMonth, _, secondStarts, secondLast, secondMonths, secondLow, secondHigh, secondIs⟩ :=
    ofMarchDay_parts secondYear secondInYear
  rw [firstDate, secondDate]
  unfold Precedes
  -- Counted in months, the years from March on do not overlap; within one of them the days decide.
  rcases Int.lt_or_eq_of_le ordered with earlier | same
  · omega
  · rw [same] at firstCounted
    have days : firstDay < secondDay := by omega
    have months : firstMonth ≤ secondMonth := by omega
    omega

/-- Only February is shorter in some years than in others, and its leap day is there when it is counted. -/
theorem isValid_ofMarchDay {year : Int} {day : Nat} (inYear : day < 365 + if isLeapYear (year + 1) then 1 else 0) :
    (ofMarchDay year day).isValid = true := by
  have short : day ≤ 365 := by split at inYear <;> omega
  unfold ofMarchDay isValid daysInMonth
  simp only [Bool.and_eq_true, decide_eq_true_eq]
  split
  next early =>
    dsimp only
    rw [if_neg (show ¬(5 * day + 2) / 153 + 3 = 2 by omega)]
    split <;> omega
  next late =>
    dsimp only
    split
    next february => split at inYear <;> split <;> omega
    next => split <;> omega

/-- Every day has a date of the calendar. -/
theorem isValid_ofDayNumber (number : Int) : (ofDayNumber number).isValid = true := by
  obtain ⟨year, day, _, counted, ends, date⟩ := ofDayNumber_march number
  rw [marchStart_next] at ends
  rw [date]
  apply isValid_ofMarchDay
  split at ends
  next leap =>
    rw [if_pos leap]
    omega
  next common =>
    rw [if_neg common]
    omega

end Date

namespace UtcForm

/-- Whether a UTC form names a second, by a date of the calendar and a time of day. -/
structure Names (utc : UtcForm) (moment : Int) : Prop where
  date : utc.date.isValid = true
  hour : utc.hour < 24
  minute : utc.minute < 60
  second : utc.second < 60
  counted : utc.date.dayNumber * 86400 + (utc.hour * 3600 + utc.minute * 60 + utc.second : Nat) = moment

/-- Whether a UTC form is before another one: the date decides, then the hour, then the minute, then the second. -/
def Precedes (first second : UtcForm) : Prop :=
  first.date.Precedes second.date ∨ first.date = second.date ∧
    (first.hour < second.hour ∨ first.hour = second.hour ∧
      (first.minute < second.minute ∨ first.minute = second.minute ∧ first.second < second.second))

end UtcForm

namespace Timestamp

theorem utcForm_names (time : Timestamp) : time.utcForm.Names time.seconds where
  date := Date.isValid_ofDayNumber _
  hour := by simp only [utcForm]; omega
  minute := by simp only [utcForm]; omega
  second := by simp only [utcForm]; omega
  counted := by
    simp only [utcForm, Date.dayNumber_ofDayNumber]
    omega

/-- A later second has a later UTC form, whatever the offsets at which the times were taken down. -/
theorem utcForm_precedes {first second : Timestamp} (before : first.seconds < second.seconds) :
    first.utcForm.Precedes second.utcForm := by
  rcases Int.lt_or_eq_of_le (show first.seconds / 86400 ≤ second.seconds / 86400 by omega) with earlier | same
  · exact .inl (Date.ofDayNumber_precedes earlier)
  · refine .inr ⟨congrArg Date.ofDayNumber same, ?_⟩
    simp only [utcForm]
    omega

end Timestamp

end SingleFlight.Time
