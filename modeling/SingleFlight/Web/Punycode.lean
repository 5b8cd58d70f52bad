/-!
Punycode (RFC 3492): a label of any characters, written with letters, digits and hyphens. The ASCII
characters come first; each of the others is a number that says which it is and where it belongs.
-/

namespace SingleFlight.Web.Punycode

def base : Nat := 36

def leastThreshold : Nat := 1

def greatestThreshold : Nat := 26

def firstBias : Nat := 72

def firstCode : Nat := 128

/-- The digit from which a number can end at a place, given the places weighed so far. -/
def threshold (place bias : Nat) : Nat :=
  if place ≤ bias then leastThreshold
  else if bias + greatestThreshold ≤ place then greatestThreshold
  else place - bias

/-- Scales a step down until it is small; every division adds one base to the bias. -/
def scale (step bias : Nat) : Nat :=
  if 455 < step then scale (step / 35) (bias + base) else bias + 36 * step / (step + 38)
termination_by step
decreasing_by exact Nat.div_lt_self (by omega) (by decide)

/-- The bias after a step, when so many characters have been placed. -/
def adapt (step placed : Nat) (isFirst : Bool) : Nat :=
  let halved := if isFirst then step / 700 else step / 2
  scale (halved + halved / placed) 0

def digit (value : Nat) : Char := if value < 26 then Char.ofNat (97 + value) else Char.ofNat (22 + value)

def digitValue? (c : Char) : Option Nat :=
  if 'a' ≤ c ∧ c ≤ 'z' then some (c.toNat - 97)
  else if 'A' ≤ c ∧ c ≤ 'Z' then some (c.toNat - 65)
  else if '0' ≤ c ∧ c ≤ '9' then some (c.toNat - 22)
  else none

theorem threshold_pos (place bias : Nat) : 1 ≤ threshold place bias := by
  unfold threshold leastThreshold greatestThreshold
  split
  · omega
  · split <;> omega

theorem threshold_le (place bias : Nat) : threshold place bias ≤ 26 := by
  unfold threshold leastThreshold greatestThreshold
  split
  · omega
  · split <;> omega

/-- The digits of a number, from a place on. -/
def numberDigits (bias place value : Nat) : List Char :=
  if value < threshold place bias then [digit value]
  else
    digit (threshold place bias + (value - threshold place bias) % (base - threshold place bias)) ::
      numberDigits bias (place + base) ((value - threshold place bias) / (base - threshold place bias))
termination_by value
decreasing_by
  have low := threshold_pos place bias
  have high := threshold_le place bias
  exact Nat.lt_of_le_of_lt (Nat.div_le_self _ _) (by omega)

/-- A label that is being written: the step since the last number, the bias, how many characters have
their place, and what is written, last first. -/
structure Writer where
  step : Nat
  bias : Nat
  placed : Nat
  written : List Char

/-- Passes a character of the label while the characters of one code point are placed. -/
def Writer.pass (basic code : Nat) (writer : Writer) (c : Char) : Writer :=
  if c.toNat < code then { writer with step := writer.step + 1 }
  else if c.toNat = code then
    { step := 0
      bias := adapt writer.step (writer.placed + 1) (writer.placed = basic)
      placed := writer.placed + 1
      written := (numberDigits writer.bias base writer.step).reverse ++ writer.written }
  else writer

/-- Places the characters of the code points given, which rise from the one before. -/
def Writer.place (label : List Char) (basic before : Nat) (writer : Writer) : List Nat → Writer
  | [] => writer
  | code :: rest =>
    let moved := { writer with step := writer.step + (code - before) * (writer.placed + 1) }
    let passed := label.foldl (Writer.pass basic code) moved
    Writer.place label basic (code + 1) { passed with step := passed.step + 1 } rest

/-- The code points of a label beyond ASCII, rising, each once. -/
def codesBeyondAscii (label : List Char) : List Nat :=
  (((label.map Char.toNat).filter (firstCode ≤ ·)).mergeSort (· ≤ ·)).eraseReps

def encode (label : List Char) : List Char :=
  let basic := label.filter (fun c => c.toNat < firstCode)
  let start := if basic.isEmpty then [] else basic ++ ['-']
  let writer := Writer.place label basic.length firstCode ⟨0, firstBias, basic.length, []⟩ (codesBeyondAscii label)
  start ++ writer.written.reverse

/-- A number that is being read: its value so far, and the weight of the next digit. -/
structure Number where
  value : Nat
  weight : Nat
  place : Nat

/-- A label that is being read: the characters so far, where the last number ended, the code point
that is being placed, the bias, and the number under way. -/
structure Reader where
  placed : List Char
  index : Nat
  code : Nat
  bias : Nat
  number : Number

def Number.start : Number := ⟨0, 1, base⟩

/-- Places a character whose number has been read. -/
def Reader.insert? (reader : Reader) (value : Nat) : Option Reader :=
  let index := reader.index + value
  let size := reader.placed.length + 1
  let code := reader.code + index / size
  if code < 0x110000 ∧ ¬(0xD800 ≤ code ∧ code < 0xE000) then
    some ⟨reader.placed.take (index % size) ++ Char.ofNat code :: reader.placed.drop (index % size), index % size + 1, code,
      adapt value size (reader.index = 0), Number.start⟩
  else none

def Reader.push? (reader : Reader) (c : Char) : Option Reader := do
  let digit ← digitValue? c
  let value := reader.number.value + digit * reader.number.weight
  let limit := threshold reader.number.place reader.bias
  if digit < limit then reader.insert? value
  else some { reader with number := ⟨value, reader.number.weight * (base - limit), reader.number.place + base⟩ }

/-- The part of a text before its last hyphen, and the part after it. A hyphen at the front is a part of
the text. -/
def cutAtLastHyphen (chars : List Char) : List Char × List Char :=
  let after := (chars.reverse.takeWhile (· ≠ '-')).reverse
  let before := chars.take (chars.length - after.length - 1)
  if before.isEmpty then ([], chars) else (before, after)

def decode? (chars : List Char) : Option (List Char) := do
  let (basic, digits) := cutAtLastHyphen chars
  let reader ← digits.foldlM Reader.push? ⟨basic, 0, firstCode, firstBias, Number.start⟩
  if reader.number.place = base then some reader.placed else none

end SingleFlight.Web.Punycode
