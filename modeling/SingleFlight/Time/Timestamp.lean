import SingleFlight.Time.Calendar

/-!
Points in time, each with the offset from UTC at which it was taken down.
-/

namespace SingleFlight.Time

/-- What a clock and a calendar show, with the offset from UTC in seconds. -/
structure Display where
  date : Date
  hour : Nat
  minute : Nat
  second : Nat
  nanosecond : Nat
  offset : Int
  deriving DecidableEq

/-- Whether a display shows a time with a year of at most four digits, at an offset of less than 26 hours. -/
def Display.isValid (display : Display) : Bool :=
  display.date.isValid && -9999 ≤ display.date.year && display.date.year ≤ 9999 && display.hour < 24 &&
    display.minute < 60 && display.second < 60 && display.nanosecond < 1000000000 &&
    -93600 < display.offset && display.offset < 93600

structure Timestamp where
  display : Display
  valid : display.isValid = true
  deriving DecidableEq

/-- The time of day in UTC, on a date of any year. -/
structure UtcForm where
  date : Date
  hour : Nat
  minute : Nat
  second : Nat
  deriving DecidableEq

namespace Timestamp

def ofDisplay? (display : Display) : Option Timestamp :=
  if valid : display.isValid = true then some ⟨display, valid⟩ else none

/-- Seconds from the start of 1970 in UTC. -/
def seconds (time : Timestamp) : Int :=
  time.display.date.dayNumber * 86400 + (time.display.hour * 3600 + time.display.minute * 60 + time.display.second : Nat)
    - time.display.offset

/-- Nanoseconds from the start of 1970 in UTC. -/
def nanoseconds (time : Timestamp) : Int := time.seconds * 1000000000 + time.display.nanosecond

/-- Whole milliseconds from one time to a later one. -/
def millisecondsSince (later earlier : Timestamp) : Int := (later.nanoseconds - earlier.nanoseconds) / 1000000

def utcForm (time : Timestamp) : UtcForm :=
  let inDay := (time.seconds % 86400).toNat
  ⟨Date.ofDayNumber (time.seconds / 86400), inDay / 3600, inDay / 60 % 60, inDay % 60⟩

/-- The UTC form, which is limited to years of at most four digits. -/
def utcForm? (time : Timestamp) : Option UtcForm :=
  if -9999 ≤ time.utcForm.date.year ∧ time.utcForm.date.year ≤ 9999 then some time.utcForm else none

/-- Whether the second is the last one of a month in UTC, where a leap second may be put. -/
def endsMonth (time : Timestamp) : Bool :=
  match time.utcForm? with
  | some utc => utc.hour = 23 && utc.minute = 59 && utc.second = 59 && utc.date.day = daysInMonth utc.date.year utc.date.month
  | none => false

end Timestamp

end SingleFlight.Time
