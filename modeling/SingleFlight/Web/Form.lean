import SingleFlight.Web.Percent

/-!
Form coding: the way in which the query of a web address lists named values. A blank is written as a
plus sign, and bytes that spell no character are read as U+FFFD.
-/

namespace SingleFlight.Web.Form

open Text

/-- Whether a byte may stand for itself. -/
def isPlain (b : Byte) : Bool :=
  (48 ≤ b && b ≤ 57) || (65 ≤ b && b ≤ 90) || (97 ≤ b && b ≤ 122) || b == 42 || b == 45 || b == 46 || b == 95

def encodeByte (b : Byte) : List Char :=
  if b == 32 then ['+'] else if isPlain b then [Char.ofNat b.toNat] else Web.encodeByte b

def encode (text : String) : List Char := (Utf8.ofString text).flatMap encodeByte

def decode (chars : List Char) : String :=
  String.ofList (Utf8.lossy (percentDecode ((Utf8.encode chars).map fun b => if b == 43 then 32 else b)))

/-- A named value. -/
abbrev Pair := String × String

def renderPair (pair : Pair) : List Char := encode pair.1 ++ '=' :: encode pair.2

def render (pairs : List Pair) : List Char := ((pairs.map renderPair).intersperse ['&']).flatten

def pair (chars : List Char) : Pair :=
  match cutAt (· = '=') chars with
  | (name, value) => (decode name, decode (value.getD []))

/-- The named values of a query; nothing between two separators names nothing. -/
def pairs (query : List Char) : List Pair :=
  ((split (· = '&') query).filter (fun piece => !piece.isEmpty)).map pair

/-- Whether one named value comes before another, by name and then by value. -/
def isAtMost (first second : Pair) : Bool := first.1 < second.1 || (first.1 = second.1 && first.2 ≤ second.2)

end SingleFlight.Web.Form
