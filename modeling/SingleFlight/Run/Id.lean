import SingleFlight.Text.Ascii
import SingleFlight.Text.Decimal
import SingleFlight.Time.Timestamp

/-!
Run ids. A run id names a file of the ledger and a directory of artifacts, so it holds nothing but
ASCII letters, digits and hyphens. The ids minted here start with the UTC time of the run, to the
second, so that their order is the order in time.
-/

namespace SingleFlight

open Text Time

def isRunIdChar (c : Char) : Bool := c.isAlphanum || c = '-'

/-- At least one character, at most 128, and all of the kind that a run id may hold. -/
def isRunId (text : String) : Bool :=
  !text.toList.isEmpty && text.toList.length ≤ 128 && text.toList.all isRunIdChar

structure RunId where
  text : String
  valid : isRunId text = true
  deriving DecidableEq

namespace RunId

theorem eq_of_text {first second : RunId} (same : first.text = second.text) : first = second := by
  cases first
  cases second
  cases same
  rfl

def ofText? (text : String) : Option RunId := if valid : isRunId text = true then some ⟨text, valid⟩ else none

/-- The start of a run id up to its first hyphen, which it shares with artifact directories. -/
def timestampComponent (id : RunId) : String := String.ofList (id.text.toList.takeWhile (· ≠ '-'))

/-- A year in at least four places, the sign included. -/
def yearChars (year : Int) : List Char :=
  if year < 0 then '-' :: Decimal.atLeast 3 year.natAbs else Decimal.atLeast 4 year.natAbs

def stampChars (utc : UtcForm) : List Char :=
  yearChars utc.date.year ++ Decimal.atLeast 2 utc.date.month ++ Decimal.atLeast 2 utc.date.day ++
    'T' :: Decimal.atLeast 2 utc.hour ++ Decimal.atLeast 2 utc.minute ++ Decimal.atLeast 2 utc.second ++ ['Z']

/-- The text of a minted run id: a UTC stamp and four hexadecimal digits that tell runs of one
second apart. -/
def mintedText (utc : UtcForm) (suffix : UInt16) : String :=
  String.ofList (stampChars utc ++ '-' :: hexPadded 4 suffix.toNat)

/-- Mints the id of a run that starts at a time, if the time has a UTC form. -/
def mint? (now : Timestamp) (suffix : UInt16) : Option RunId :=
  now.utcForm?.bind fun utc => ofText? (mintedText utc suffix)

end RunId

end SingleFlight
