import SingleFlight.Unicode.Direction
import SingleFlight.Unicode.Joining
import SingleFlight.Unicode.Mapping
import SingleFlight.Unicode.Marks
import SingleFlight.Web.Punycode

/-!
Domain names. A name in any script has one form in ASCII: its characters are mapped and normalized,
and labels with others than ASCII are written in Punycode. A label that is written in Punycode
already must be the one form of what it spells.
-/

namespace SingleFlight.Web.Domain

open Text Unicode

/-- Characters that no host name of a web address may hold once it is mapped, which leaves no letters in upper case. -/
def isForbidden (c : Char) : Bool :=
  c.toNat ≤ 0x20 || c.toNat = 0x7F || c.isUpper ||
    ['%', '#', '/', ':', '<', '>', '?', '@', '[', '\\', ']', '^', '|'].contains c

def isAscii (c : Char) : Bool := c.toNat < 0x80

/-- What a label written in Punycode starts with. -/
def codedStart : List Char := ['x', 'n', '-', '-']

/-- The longest label that is decoded, and the longest that is encoded. -/
def longestCoded : Nat := 2000

def longestUncoded : Nat := 1000

/-- A label as it is read and as it is written in ASCII. -/
structure Label where
  shown : List Char
  ascii : List Char

/-- Whether the characters of a label stand where they may. -/
def isWellFormed (label : List Char) : Bool := !label.head?.any isMark && joinersFit [] label

/-- The label that the text behind the start of a coded label spells. All of that text is ASCII; if it ends in a
hyphen, it spells nothing beyond ASCII. -/
def decodeLabel? (coded : List Char) : Option (List Char) :=
  if longestCoded < coded.length || !coded.all isAscii || coded.getLast?.all (· = '-') then none
  else (Punycode.decode? coded).filter fun label =>
    label.all isKept && normalize label = label && !codedStart.isPrefixOf label

def label? (label : List Char) : Option Label := do
  let read ← if codedStart.isPrefixOf label then (decodeLabel? (label.drop codedStart.length)).map (⟨·, label⟩)
    else if label.all isAscii then some ⟨label, label⟩
    else if longestUncoded < label.length then none
    else some ⟨label, codedStart ++ Punycode.encode label⟩
  if isWellFormed read.shown then some read else none

/-- Whether labels keep the rules of writing direction, if one of them is written from right to left. -/
def areWellDirected (labels : List Label) : Bool :=
  !labels.any (fun label => label.shown.any isRightward) || labels.all (fun label => isWellDirected label.shown)

/-- The form of a name in ASCII. -/
def toAscii? (name : List Char) : Option (List Char) := do
  let mapped := normalize (← name.mapM mapped?).flatten
  if mapped.any isForbidden then none
  else
    let labels ← (split (· = '.') mapped).mapM label?
    if areWellDirected labels then some ((labels.map (·.ascii)).intersperse ['.']).flatten else none

end SingleFlight.Web.Domain
