import Mathlib.Tactic.Common
import SingleFlight.Time.Calendar

/-!
Days and dates. A date is found from the number of a day by counting 365 days to a year and setting the
leap days right; counting back from the date leads to the same day, and the year of a date is found again from its day.
-/

namespace SingleFlight.Time.Date

/-- The days of an era of 400 years that come before one of its years. -/
def daysBefore (year : Nat) : Nat := 365 * year + year / 4 - year / 100

/-- The days of an era, less the leap days that have passed. Each year has 365 of them. -/
def commonDays (day : Nat) : Nat := day - day / 1460 + day / 36524 - day / 146096

theorem commonDays_mono {first second : Nat} (ordered : first ≤ second) : commonDays first ≤ commonDays second := by
  have inCenturies (day : Nat) : day / 146096 = day / 36524 / 4 := by rw [Nat.div_div_eq_div_mul]
  have centuries : first / 36524 ≤ second / 36524 := Nat.div_le_div_right ordered
  have days : first - first / 1460 ≤ second - second / 1460 := by omega
  unfold commonDays
  rw [inCenturies first, inCenturies second]
  generalize first / 36524 = firstCentury at *
  generalize second / 36524 = secondCentury at *
  omega

/-- A year starts on the day on which its common days do. -/
theorem commonDays_start : ∀ year < 400, 365 * year ≤ commonDays (daysBefore year) ∧
    (year = 0 ∨ commonDays (daysBefore year - 1) < 365 * year) := by decide +kernel

/-- A day comes before the next year starts, unless its year is the last one of the era. -/
theorem day_before_next (day : Nat) (small : commonDays day / 365 < 400) :
    day < daysBefore (commonDays day / 365 + 1) ∨ commonDays day / 365 = 399 := by
  by_contra later
  have late := commonDays_mono (show daysBefore (commonDays day / 365 + 1) ≤ day by omega)
  have next := (commonDays_start (commonDays day / 365 + 1) (by omega)).1
  omega

/-- The year of a day is found from its common days, and has at most 366 days. -/
theorem year_of_day (day : Nat) (inEra : day < 146097) :
    commonDays day / 365 < 400 ∧ daysBefore (commonDays day / 365) ≤ day ∧
      day - daysBefore (commonDays day / 365) < 366 := by
  have last : commonDays day ≤ commonDays 146096 := commonDays_mono (by omega)
  have lastDays : commonDays 146096 = 145999 := by decide
  have ends := day_before_next day (by omega)
  generalize found : commonDays day / 365 = year at *
  have small : year < 400 := by omega
  have starts : daysBefore year ≤ day := by
    by_contra later
    have early := commonDays_mono (show day ≤ daysBefore year - 1 by omega)
    rcases (commonDays_start year small).2 with zero | before
    · rw [zero] at later
      simp [daysBefore] at later
    · omega
  refine ⟨small, starts, ?_⟩
  unfold daysBefore at *
  omega

/-- The days before 1 March of a year, counted from 1 March of the year zero. -/
def marchStart (year : Int) : Int := 365 * year + year / 4 - year / 100 + year / 400

theorem marchStart_mono {first second : Int} (ordered : first ≤ second) : marchStart first ≤ marchStart second := by
  unfold marchStart
  omega

theorem marchStart_era (era : Int) {year : Nat} (inEra : year < 400) :
    marchStart (era * 400 + year) = era * 146097 + daysBefore year := by
  unfold marchStart daysBefore
  omega

/-- The date of a day that is counted from 1 March of a year. -/
def ofMarchDay (year : Int) (day : Nat) : Date :=
  let month := (5 * day + 2) / 153
  if month < 10 then ⟨year, month + 3, day - (153 * month + 2) / 5 + 1⟩
  else ⟨year + 1, month - 9, day - (153 * month + 2) / 5 + 1⟩

/-- The year that a day is in, from March on, and its place in that year. -/
theorem ofDayNumber_march (number : Int) : ∃ (year : Int) (day : Nat), day ≤ 365 ∧
    number + 719468 = marchStart year + day ∧ number + 719468 < marchStart (year + 1) ∧
      ofDayNumber number = ofMarchDay year day := by
  have inEra : ((number + 719468) % 146097).toNat < 146097 := by omega
  have whole : number + 719468 = (number + 719468) / 146097 * 146097 + ((number + 719468) % 146097).toNat := by omega
  obtain ⟨small, starts, short⟩ := year_of_day _ inEra
  have ends := day_before_next _ small
  generalize eraOfDay : (number + 719468) / 146097 = era at whole
  generalize dayOfEra : ((number + 719468) % 146097).toNat = day at *
  refine ⟨era * 400 + (commonDays day / 365 : Nat), day - daysBefore (commonDays day / 365), by omega, ?_, ?_, ?_⟩
  · rw [marchStart_era era small]
    omega
  · -- The last year of an era has a leap day that its number does not tell of.
    by_cases last : commonDays day / 365 = 399
    · rw [last]
      unfold marchStart
      omega
    · have within := ends.resolve_right last
      have next := marchStart_era era (show commonDays day / 365 + 1 < 400 by omega)
      rw [Int.natCast_succ, ← Int.add_assoc] at next
      omega
  · simp only [ofDayNumber, dayOfEra, eraOfDay]
    rfl

/-- The month of a day of a year, counted from March, and the day in it. -/
theorem ofMarchDay_parts (year : Int) {day : Nat} (inYear : day ≤ 365) : ∃ month : Nat, month ≤ 11 ∧
    (153 * month + 2) / 5 ≤ day ∧ day < (153 * (month + 1) + 2) / 5 ∧
    (ofMarchDay year day).year * 12 + (ofMarchDay year day).month = year * 12 + month + 3 ∧
    1 ≤ (ofMarchDay year day).month ∧ (ofMarchDay year day).month ≤ 12 ∧
    (ofMarchDay year day).day = day - (153 * month + 2) / 5 + 1 := by
  refine ⟨(5 * day + 2) / 153, by omega, by omega, by omega, ?_⟩
  unfold ofMarchDay
  dsimp only
  split
  next early =>
    dsimp only
    omega
  next late =>
    dsimp only
    omega

theorem dayNumber_ofMarchDay (year : Int) {day : Nat} (inYear : day ≤ 365) :
    (ofMarchDay year day).dayNumber + 719468 = marchStart year + day := by
  unfold ofMarchDay marchStart dayNumber
  dsimp only
  split
  next early =>
    have counts : ((5 * day + 2) / 153 + 3 + 9) % 12 = (5 * day + 2) / 153 := by omega
    have late : ¬(5 * day + 2) / 153 + 3 ≤ 2 := by omega
    dsimp only
    rw [if_neg late, counts]
    omega
  next later =>
    have counts : ((5 * day + 2) / 153 - 9 + 9) % 12 = (5 * day + 2) / 153 := by omega
    have early : (5 * day + 2) / 153 - 9 ≤ 2 := by omega
    dsimp only
    rw [if_pos early, counts]
    omega

theorem dayNumber_ofDayNumber (number : Int) : (ofDayNumber number).dayNumber = number := by
  obtain ⟨year, day, inYear, counted, _, found⟩ := ofDayNumber_march number
  have back := dayNumber_ofMarchDay year inYear
  rw [found]
  omega

theorem ofDayNumber_injective {first second : Int} (same : ofDayNumber first = ofDayNumber second) :
    first = second := by
  rw [← dayNumber_ofDayNumber first, same, dayNumber_ofDayNumber]

/-- The month and the day of a date are counted from one and have two digits. -/
theorem ofDayNumber_bounds (number : Int) :
    1 ≤ (ofDayNumber number).month ∧ (ofDayNumber number).month ≤ 12 ∧ 1 ≤ (ofDayNumber number).day ∧
      (ofDayNumber number).day ≤ 31 := by
  obtain ⟨year, day, inYear, _, _, found⟩ := ofDayNumber_march number
  obtain ⟨month, _, starts, ends, _, firstMonth, lastMonth, dayIs⟩ := ofMarchDay_parts year inYear
  rw [found]
  omega

theorem daysInMonth_le (year : Int) (month : Nat) : daysInMonth year month ≤ 31 := by
  unfold daysInMonth
  split
  next => split <;> decide
  next => split <;> decide

/-- A year starts 365 days after the one before it, leap days apart. -/
theorem dayNumber_first (year : Int) : (⟨year, 1, 1⟩ : Date).dayNumber =
    365 * (year - 1) + (year - 1) / 4 - (year - 1) / 100 + (year - 1) / 400 - 719162 := by
  simp only [dayNumber]
  omega

/-- A day of a year is at least its first day, and before the first day of the next year. -/
theorem dayNumber_within {date : Date} (months : 1 ≤ date.month ∧ date.month ≤ 12) (days : 1 ≤ date.day ∧ date.day ≤ 31) :
    (⟨date.year, 1, 1⟩ : Date).dayNumber ≤ date.dayNumber ∧ date.dayNumber < (⟨date.year + 1, 1, 1⟩ : Date).dayNumber := by
  obtain ⟨year, month, day⟩ := date
  dsimp only at months days
  rw [dayNumber_first, dayNumber_first]
  unfold dayNumber
  dsimp only
  by_cases early : month ≤ 2
  · have counts : (month + 9) % 12 = month + 9 := by omega
    rw [if_pos early, counts]
    omega
  · have counts : (month + 9) % 12 = month - 3 := by omega
    rw [if_neg early, counts]
    omega

theorem dayNumber_first_mono {first second : Int} (ordered : first ≤ second) :
    (⟨first, 1, 1⟩ : Date).dayNumber ≤ (⟨second, 1, 1⟩ : Date).dayNumber := by
  rw [dayNumber_first, dayNumber_first]
  omega

/-- A year is found again from the number of any of its days. -/
theorem year_ofDayNumber {date : Date} (months : 1 ≤ date.month ∧ date.month ≤ 12) (days : 1 ≤ date.day ∧ date.day ≤ 31) :
    (ofDayNumber date.dayNumber).year = date.year := by
  obtain ⟨firstMonth, lastMonth, firstDay, lastDay⟩ := ofDayNumber_bounds date.dayNumber
  have found := dayNumber_within ⟨firstMonth, lastMonth⟩ ⟨firstDay, lastDay⟩
  have given := dayNumber_within months days
  rw [dayNumber_ofDayNumber] at found
  rcases Int.lt_trichotomy (ofDayNumber date.dayNumber).year date.year with before | same | behind
  · have next := dayNumber_first_mono (show (ofDayNumber date.dayNumber).year + 1 ≤ date.year by omega)
    omega
  · exact same
  · have next := dayNumber_first_mono (show date.year + 1 ≤ (ofDayNumber date.dayNumber).year by omega)
    omega

end SingleFlight.Time.Date
