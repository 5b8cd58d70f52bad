import SingleFlight.Text.Decimal
import SingleFlight.Web.Domain
import SingleFlight.Web.Percent

/-!
Hosts of web addresses: a domain name, or an IP address of either version. A name whose last label is
a number has to be an IP address of version 4.
-/

namespace SingleFlight.Web

open Text

inductive Host where
  | domain (name : String)
  | version4 (address : UInt32)
  | version6 (pieces : List UInt16)
  deriving DecidableEq

namespace Host

/-- A number in decimal, in octal behind a zero, or in hexadecimal behind `0x`; behind either of these
nothing is zero. -/
def number? (chars : List Char) : Option Nat :=
  match chars with
  | [] => none
  | '0' :: 'x' :: rest | '0' :: 'X' :: rest => hexNumber? rest
  | '0' :: second :: rest =>
    if (second :: rest).all (fun c => '0' ≤ c && c ≤ '7') then
      some ((second :: rest).foldl (fun value c => value * 8 + Decimal.digitValue c) 0)
    else none
  | _ => Decimal.natural? chars

/-- The labels of a name; an empty one at the end does not count. -/
def parts (name : List Char) : List (List Char) :=
  let pieces := split (· = '.') name
  if pieces.getLast? = some [] then pieces.dropLast else pieces

/-- Whether the last label of a name is a number. -/
def endsInNumber (name : List Char) : Bool :=
  match (parts name).getLast? with
  | none => false
  | some last => (!last.isEmpty && last.all Decimal.isDigit) || (number? last).isSome

/-- The address that numbers spell, the last of which fills the bytes that are left. -/
def version4? (name : List Char) : Option Host := do
  let numbers ← (parts name).mapM number?
  let last ← numbers.getLast?
  let leading := numbers.dropLast
  if 3 < leading.length ∨ leading.any (255 < ·) ∨ Nat.pow 256 (4 - leading.length) ≤ last then none
  else some (.version4 (UInt32.ofNat (leading.zipIdx.foldl (fun total (n, place) => total + n * Nat.pow 256 (3 - place)) last)))

/-- A group of one to four hexadecimal digits. -/
def group? (chars : List Char) : Option UInt16 :=
  if chars.isEmpty || 4 < chars.length then none else (hexNumber? chars).map UInt16.ofNat

/-- A byte in decimal, without zeros in front. -/
def byte? (chars : List Char) : Option Nat :=
  if chars.head? = some '0' && chars.length ≠ 1 then none else (Decimal.natural? chars).filter (· ≤ 255)

/-- Four bytes with dots between them, as two groups. -/
def dotted? (chars : List Char) : Option (List UInt16) := do
  match ← (split (· = '.') chars).mapM byte? with
  | [first, second, third, fourth] => some [UInt16.ofNat (first * 256 + second), UInt16.ofNat (third * 256 + fourth)]
  | _ => none

/-- Groups with colons between them. The last may be four bytes with dots between them. -/
def groups? : List (List Char) → Option (List UInt16)
  | [] => some []
  | [last] => if last.contains '.' then dotted? last else (group? last).map ([·])
  | chars :: rest => do return (← group? chars) :: (← groups? rest)

/-- The groups in front of a gap, none of which are bytes. -/
def frontGroups? (chars : List Char) : Option (List UInt16) :=
  if chars.isEmpty then some [] else (split (· = ':') chars).mapM group?

def backGroups? (chars : List Char) : Option (List UInt16) :=
  if chars.isEmpty then some [] else groups? (split (· = ':') chars)

/-- Cuts a text at its first pair of colons. -/
def cutAtGap (front : List Char) : List Char → Option (List Char × List Char)
  | ':' :: ':' :: rest => some (front.reverse, rest)
  | c :: rest => cutAtGap (c :: front) rest
  | [] => none

/-- Eight groups, or fewer with a gap that stands for at least one group of zero. -/
def version6? (chars : List Char) : Option Host := do
  match cutAtGap [] chars with
  | some (front, back) =>
    let front ← frontGroups? front
    let back ← backGroups? back
    if 7 < front.length + back.length then none
    else some (.version6 (front ++ List.replicate (8 - (front.length + back.length)) 0 ++ back))
  | none =>
    let groups ← groups? (split (· = ':') chars)
    if groups.length = 8 then some (.version6 groups) else none

/-- Reads a host. What is in brackets is an address of version 6. -/
def ofChars? (chars : List Char) : Option Host :=
  match chars with
  | '[' :: rest => if rest.getLast? = some ']' then version6? rest.dropLast else none
  | _ => do
    let name ← Domain.toAscii? (← Utf8.strict? (percentDecode (Utf8.encode chars)))
    if name.isEmpty then none
    else if endsInNumber name then version4? name
    else some (.domain (String.ofList name))

def version4Chars (address : UInt32) : List Char :=
  (([address.toNat / 16777216, address.toNat / 65536 % 256, address.toNat / 256 % 256, address.toNat % 256].map
    Decimal.digits).intersperse ['.']).flatten

def groupChars (group : UInt16) : List Char :=
  match (hexPadded 4 group.toNat).dropWhile (· = '0') with
  | [] => ['0']
  | digits => digits

/-- The number of zeros that groups start with. -/
def zeros (groups : List UInt16) : Nat := (groups.takeWhile (· = 0)).length

/-- Where the first longest run of zeros starts, and how long it is. -/
def longestZeros : Nat → Nat × Nat → List UInt16 → Nat × Nat
  | _, best, [] => best
  | place, best, group :: rest =>
    longestZeros (place + 1) (if best.2 < zeros (group :: rest) then (place, zeros (group :: rest)) else best) rest

def groupsChars (groups : List UInt16) : List Char := ((groups.map groupChars).intersperse [':']).flatten

/-- Writes the first longest run of two or more zeros as a gap. -/
def version6Chars (groups : List UInt16) : List Char :=
  let (start, length) := longestZeros 0 (0, 0) groups
  if length < 2 then groupsChars groups
  else groupsChars (groups.take start) ++ [':', ':'] ++ groupsChars (groups.drop (start + length))

def chars : Host → List Char
  | domain name => name.toList
  | version4 address => version4Chars address
  | version6 groups => '[' :: (version6Chars groups ++ [']'])

end Host

end SingleFlight.Web
