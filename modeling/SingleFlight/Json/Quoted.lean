import SingleFlight.Text.Ascii
import SingleFlight.Text.Utf8

/-!
Texts in quotation marks: how they are written, and how the pieces between the marks are put
together. An escape names one UTF-16 unit, so a character beyond U+FFFF takes two of them.
-/

namespace SingleFlight.Json

open Text

/-- A character as it stands between quotation marks. -/
def escape (c : Char) : List Char :=
  if c = '"' then ['\\', '"']
  else if c = '\\' then ['\\', '\\']
  else if c = '\n' then ['\\', 'n']
  else if c = '\r' then ['\\', 'r']
  else if c = '\t' then ['\\', 't']
  else if c.toNat = 8 then ['\\', 'b']
  else if c.toNat = 12 then ['\\', 'f']
  else if c.toNat < 32 then ['\\', 'u'] ++ hexPadded 4 c.toNat
  else [c]

def quote (text : String) : List Char := '"' :: (text.toList.flatMap escape ++ ['"'])

/-- What stands between quotation marks, piece by piece. -/
inductive Piece where
  | char (c : Char)
  | unit (value : Nat)
  | malformed

/-- The character that a letter after a backslash stands for. -/
def shortEscape? (c : Char) : Option Char :=
  if c = '"' then some '"'
  else if c = '\\' then some '\\'
  else if c = '/' then some '/'
  else if c = 'b' then some (Char.ofNat 8)
  else if c = 'f' then some (Char.ofNat 12)
  else if c = 'n' then some '\n'
  else if c = 'r' then some '\r'
  else if c = 't' then some '\t'
  else none

def isHighUnit (value : Nat) : Bool := 0xD800 ≤ value && value ≤ 0xDBFF

def isLowUnit (value : Nat) : Bool := 0xDC00 ≤ value && value ≤ 0xDFFF

def paired (high low : Nat) : Char := Char.ofNat (0x10000 + (high - 0xD800) * 0x400 + (low - 0xDC00))

/-- Puts the rest of the pieces behind the characters already found, which are kept last first.
Half of a pair on its own spells nothing. -/
def joinOnto (done : List Char) : List Piece → Option (List Char)
  | [] => some done.reverse
  | .char c :: rest => joinOnto (c :: done) rest
  | .malformed :: _ => none
  | [.unit value] =>
    if isHighUnit value || isLowUnit value then none else some (Char.ofNat value :: done).reverse
  | .unit high :: .unit low :: rest =>
    if isHighUnit high then if isLowUnit low then joinOnto (paired high low :: done) rest else none
    else if isLowUnit high then none
    else joinOnto (Char.ofNat high :: done) (.unit low :: rest)
  | .unit value :: .char c :: rest =>
    if isHighUnit value || isLowUnit value then none else joinOnto (c :: Char.ofNat value :: done) rest
  | .unit _ :: .malformed :: _ => none

def join (pieces : List Piece) : Option String := (joinOnto [] pieces).map String.ofList

end SingleFlight.Json
