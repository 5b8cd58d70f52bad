/-!
ASCII letter case, hexadecimal digits, and cutting a text at a separator.
-/

namespace SingleFlight.Text

/-- Letters `A` to `Z` in lower case; every other character is kept. -/
def asciiLower (text : String) : String := String.ofList (text.toList.map Char.toLower)

/-- Letters `a` to `z` in upper case; every other character is kept. -/
def asciiUpper (text : String) : String := String.ofList (text.toList.map Char.toUpper)

/-- The value of a hexadecimal digit in either case. -/
def hexValue? (c : Char) : Option Nat :=
  if '0' ≤ c ∧ c ≤ '9' then some (c.toNat - '0'.toNat)
  else if 'a' ≤ c ∧ c ≤ 'f' then some (c.toNat - 'a'.toNat + 10)
  else if 'A' ≤ c ∧ c ≤ 'F' then some (c.toNat - 'A'.toNat + 10)
  else none

/-- The value of a list of hexadecimal digits, the most significant first. -/
def hexNumber? (chars : List Char) : Option Nat :=
  chars.foldlM (fun value c => (hexValue? c).map (value * 16 + ·)) 0

def hexDigit (value : Nat) : Char := Nat.digitChar (value % 16)

def hexDigitUpper (value : Nat) : Char := (hexDigit value).toUpper

/-- The last `width` hexadecimal digits of a number. -/
def hexPadded : Nat → Nat → List Char
  | 0, _ => []
  | width + 1, value => hexPadded width (value / 16) ++ [hexDigit value]

section Cutting

variable {α : Type}

/-- Cuts the rest of a text at each separator, onto the piece under way and the pieces done, both
kept last first. -/
def splitOnto (isSeparator : α → Bool) (piece : List α) (done : List (List α)) : List α → List (List α)
  | [] => (piece.reverse :: done).reverse
  | c :: rest =>
    if isSeparator c then splitOnto isSeparator [] (piece.reverse :: done) rest
    else splitOnto isSeparator (c :: piece) done rest

/-- The pieces between separators; a text without one is its own only piece. -/
def split (isSeparator : α → Bool) (chars : List α) : List (List α) := splitOnto isSeparator [] [] chars

end Cutting

/-- What stands before the first character of a kind, and what stands after it if there is one. -/
def cutAt (kind : Char → Bool) (chars : List Char) : List Char × Option (List Char) :=
  match chars.dropWhile (fun c => !kind c) with
  | [] => (chars.takeWhile (fun c => !kind c), none)
  | _ :: rest => (chars.takeWhile (fun c => !kind c), some rest)

/-- Whether one text stands somewhere in another. -/
def occursIn (part : List Char) : List Char → Bool
  | [] => part.isEmpty
  | c :: rest => part.isPrefixOf (c :: rest) || occursIn part rest

def startsWith (text beginning : String) : Bool := beginning.toList.isPrefixOf text.toList

/-- The text before a given ending, if it has that ending. -/
def withoutEnding? (ending text : String) : Option String :=
  if ending.toList.isSuffixOf text.toList then
    some (String.ofList (text.toList.take (text.toList.length - ending.toList.length)))
  else none

end SingleFlight.Text
