import SingleFlight.Text.Ascii
import SingleFlight.Text.Decimal
import SingleFlight.Time.Timestamp

/-!
The text form of a time: `2026-05-01T10:00:01.25Z`, or an offset in place of the `Z`. It has no place
for the sign of a year, for seconds of an offset and for an offset of a day or more.
-/

namespace SingleFlight.Time

open Text

/-- The fraction of a second, without zeros at its end, and nothing for a whole second. -/
def fraction (nanosecond : Nat) : List Char :=
  if nanosecond = 0 then []
  else '.' :: ((Decimal.padded 9 nanosecond).reverse.dropWhile (· = '0')).reverse

def zone (offset : Int) : List Char :=
  if offset = 0 then ['Z']
  else (if offset < 0 then '-' else '+') ::
    (Decimal.padded 2 (offset.natAbs / 3600) ++ ':' :: Decimal.padded 2 (offset.natAbs / 60 % 60))

/-- Whether the text form has a place for all that a time shows. -/
def Timestamp.isPrintable (time : Timestamp) : Bool :=
  0 ≤ time.display.date.year && time.display.offset.natAbs < 86400 && time.display.offset % 60 = 0

def Timestamp.chars (time : Timestamp) : List Char :=
  Decimal.padded 4 time.display.date.year.toNat ++ '-' :: Decimal.padded 2 time.display.date.month ++
    '-' :: Decimal.padded 2 time.display.date.day ++ 'T' :: Decimal.padded 2 time.display.hour ++
    ':' :: Decimal.padded 2 time.display.minute ++ ':' :: Decimal.padded 2 time.display.second ++
    fraction time.display.nanosecond ++ zone time.display.offset

def Timestamp.text (time : Timestamp) : String := String.ofList time.chars

/-- The rest of a text that starts with a given character. -/
def after? (c : Char) : List Char → Option (List Char)
  | first :: rest => if first = c then some rest else none
  | [] => none

/-- Reads a fraction of a second to the nanosecond, and passes over further digits. -/
def fraction? (chars : List Char) : Option (Nat × List Char) :=
  match chars with
  | '.' :: rest =>
    let digits := rest.takeWhile Decimal.isDigit
    if digits.isEmpty then none
    else some (Decimal.value ((digits ++ List.replicate 9 '0').take 9), rest.dropWhile Decimal.isDigit)
  | _ => some (0, chars)

def zone? (chars : List Char) : Option (Int × List Char) :=
  match chars with
  | [] => none
  | mark :: rest =>
    if mark = 'Z' ∨ mark = 'z' then some (0, rest)
    else if mark = '+' ∨ mark = '-' then do
      let (hours, rest) ← Decimal.take? 2 rest
      let rest ← after? ':' rest
      let (minutes, rest) ← Decimal.take? 2 rest
      if hours ≤ 23 ∧ minutes ≤ 59 then
        some ((if mark = '-' then -1 else 1) * ((hours * 3600 + minutes * 60 : Nat) : Int), rest)
      else none
    else none

/-- Any one ASCII character may stand between the date and the time of day. -/
def separator? : List Char → Option (List Char)
  | c :: rest => if c.toNat < 128 then some rest else none
  | [] => none

/-- A leap second is read as the last nanosecond before it. -/
def ofParts? (date : Date) (hour minute second nanosecond : Nat) (offset : Int) : Option Timestamp :=
  if second = 60 then (Timestamp.ofDisplay? ⟨date, hour, minute, 59, 999999999, offset⟩).filter (·.endsMonth)
  else Timestamp.ofDisplay? ⟨date, hour, minute, second, nanosecond, offset⟩

def Timestamp.ofChars? (chars : List Char) : Option Timestamp := do
  let (year, chars) ← Decimal.take? 4 chars
  let chars ← after? '-' chars
  let (month, chars) ← Decimal.take? 2 chars
  let chars ← after? '-' chars
  let (day, chars) ← Decimal.take? 2 chars
  let chars ← separator? chars
  let (hour, chars) ← Decimal.take? 2 chars
  let chars ← after? ':' chars
  let (minute, chars) ← Decimal.take? 2 chars
  let chars ← after? ':' chars
  let (second, chars) ← Decimal.take? 2 chars
  let (nanosecond, chars) ← fraction? chars
  let (offset, chars) ← zone? chars
  if chars.isEmpty then ofParts? ⟨year, month, day⟩ hour minute second nanosecond offset else none

def Timestamp.ofText? (text : String) : Option Timestamp := Timestamp.ofChars? text.toList

end SingleFlight.Time
