import SingleFlight.Text.Ascii
import SingleFlight.Text.Utf8

/-!
Percent encoding: a byte that may not stand for itself is written as a percent sign and two
hexadecimal digits. Which characters may stand for themselves depends on the place.
-/

namespace SingleFlight.Web

open Text

def encodeByte (b : Byte) : List Char := ['%', hexDigitUpper (b.toNat / 16), hexDigitUpper b.toNat]

/-- Encodes the characters of a kind and everything beyond ASCII. -/
def percentEncode (isEncoded : Char → Bool) (chars : List Char) : List Char :=
  chars.flatMap fun c =>
    if 0x80 ≤ c.toNat || isEncoded c then (String.utf8EncodeChar c).flatMap encodeByte else [c]

def hexByte? (b : Byte) : Option Nat := hexValue? (Char.ofNat b.toNat)

/-- Reads the bytes that are left, onto those read, which are kept last first. A percent sign that two
hexadecimal digits do not follow stands for itself. -/
def percentDecodeOnto (done : List Byte) : List Byte → List Byte
  | [] => done.reverse
  | [last] => (last :: done).reverse
  | [first, second] => (second :: first :: done).reverse
  | b :: first :: second :: rest =>
    match b == 37, hexByte? first, hexByte? second with
    | true, some high, some low => percentDecodeOnto (UInt8.ofNat (high * 16 + low) :: done) rest
    | _, _, _ => percentDecodeOnto (b :: done) (first :: second :: rest)
termination_by bytes => bytes.length

def percentDecode (bytes : List Byte) : List Byte := percentDecodeOnto [] bytes

def isControl (c : Char) : Bool := c.toNat < 0x20 || c.toNat = 0x7F

/-- Characters that are encoded in the query of a web address. -/
def isEncodedInQuery (c : Char) : Bool := isControl c || [' ', '"', '#', '<', '>', '\''].contains c

/-- Characters that are encoded in a path. -/
def isEncodedInPath (c : Char) : Bool :=
  isControl c || [' ', '"', '#', '<', '>', '?', Char.ofNat 0x60, '\x7b', '\x7d'].contains c

/-- Characters that are encoded in a user name or a password. -/
def isEncodedInUser (c : Char) : Bool :=
  isEncodedInPath c || ['/', ':', ';', '=', '@', '[', '\\', ']', '^', '|'].contains c

end SingleFlight.Web
