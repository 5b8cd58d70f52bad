import SingleFlight.Text.Ascii

/-!
The notation in which tables of Unicode properties are kept: words set apart by blanks and line ends, each of
them a code point or a span of code points in hexadecimal, with a note behind it.
-/

namespace SingleFlight.Unicode

open Text

/-- A span of code points and a note on it. -/
structure Span where
  first : Nat
  last : Nat
  note : List Char
  deriving DecidableEq

def isHexChar (c : Char) : Bool := (hexValue? c).isSome

def hexNumber (chars : List Char) : Nat := (hexNumber? chars).getD 0

def Span.ofWord (word : List Char) : Span :=
  let first := hexNumber (word.takeWhile isHexChar)
  match word.dropWhile isHexChar with
  | '-' :: rest => ⟨first, hexNumber (rest.takeWhile isHexChar), rest.dropWhile isHexChar⟩
  | note => ⟨first, first, note⟩

/-- The spans of a table. -/
def spans (table : String) : List Span :=
  ((split (fun c => c = ' ' || c = '\n') table.toList).filter (fun word => !word.isEmpty)).map Span.ofWord

/-- The span that a code point lies in. -/
def find? (table : List Span) (code : Nat) : Option Span :=
  table.find? fun span => span.first ≤ code && code ≤ span.last

def isIn (table : List Span) (c : Char) : Bool := (find? table c.toNat).isSome

/-- The characters that a note lists by code points with dots between them. -/
def charsOf (chars : List Char) : List Char := (split (· = '.') chars).map fun piece => Char.ofNat (hexNumber piece)

/-- The text that a note lists for a code point of its span. -/
def listed (span : Span) (texts : List Char) (code : Nat) : List Char :=
  charsOf ((split (· = ',') texts).getD (code - span.first) [])

end SingleFlight.Unicode
