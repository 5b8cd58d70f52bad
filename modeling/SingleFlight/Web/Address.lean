import SingleFlight.Text.Blank
import SingleFlight.Web.Form
import SingleFlight.Web.Host

/-!
Web addresses: those of the schemes http, https, ws and wss, which name a host. An address is read
leniently and kept in one form; its fragment, which is never sent, is not kept.
-/

namespace SingleFlight.Web

open Text

inductive Scheme where
  | http
  | https
  | ws
  | wss
  deriving DecidableEq

namespace Scheme

def name : Scheme → String
  | http => "http"
  | https => "https"
  | ws => "ws"
  | wss => "wss"

def ofName? (name : String) : Option Scheme :=
  [http, https, ws, wss].find? (·.name == name)

def defaultPort : Scheme → UInt16
  | http | ws => 80
  | https | wss => 443

end Scheme

/-- The parts of an address. The port is kept where it is not the one of the scheme; the texts are as
they are sent. -/
structure Address where
  scheme : Scheme
  user : String
  password : String
  host : Host
  port : Option UInt16
  segments : List String
  query : Option String
  deriving DecidableEq

namespace Address

def isSlash (c : Char) : Bool := c = '/' || c = '\\'

def endsAuthority (c : Char) : Bool := isSlash c || c = '?' || c = '#'

/-- Drops control characters and blanks at both ends, and line breaks and tabs everywhere. -/
def prepare (text : String) : List Char :=
  (trimBoth (fun c => c.toNat ≤ 0x20) text.toList).filter fun c => !(c = '\t' || c = '\n' || c = '\r')

/-- The scheme in front of a text, in lower case, and what follows its colon. -/
def scheme? (chars : List Char) : Option (String × List Char) :=
  match cutAt (· = ':') chars with
  | (first :: name, some rest) =>
    if first.isAlpha && name.all (fun c => c.isAlphanum || c = '+' || c = '-' || c = '.') then
      some (asciiLower (String.ofList (first :: name)), rest)
    else none
  | _ => none

/-- Cuts a text at its last character of a kind. -/
def cutAtLast? (kind : Char → Bool) (chars : List Char) : Option (List Char × List Char) :=
  match cutAt kind chars.reverse with
  | (after, some before) => some (before.reverse, after.reverse)
  | (_, none) => none

/-- The part of an authority before its port; a colon in brackets is no end. -/
def hostPart (inBrackets : Bool) : List Char → List Char
  | [] => []
  | c :: rest =>
    if c = ':' && !inBrackets then []
    else c :: hostPart (if c = '[' then true else if c = ']' then false else inBrackets) rest

/-- A port, unless it is the default one or left out. -/
def port? (scheme : Scheme) (chars : List Char) : Option (Option UInt16) :=
  match chars with
  | ':' :: digits =>
    if !digits.all Decimal.isDigit || 65535 < Decimal.value digits then none
    else if digits.isEmpty || UInt16.ofNat (Decimal.value digits) = scheme.defaultPort then some none
    else some (some (UInt16.ofNat (Decimal.value digits)))
  | _ => some none

def encodeUser (chars : List Char) : String := String.ofList (percentEncode isEncodedInUser chars)

/-- The user name and the password in front of a host. -/
def credentials (chars : List Char) : String × String :=
  match cutAt (· = ':') chars with
  | (user, password) => (encodeUser user, encodeUser (password.getD []))

/-- Reads what stands between the slashes and the path. -/
def authority? (scheme : Scheme) (chars : List Char) : Option Address := do
  let ((user, password), rest) := match cutAtLast? (· = '@') chars with
    | some (before, after) => (credentials before, after)
    | none => (("", ""), chars)
  let name := hostPart false rest
  let host ← if name.isEmpty then none else Host.ofChars? name
  let port ← port? scheme (rest.drop name.length)
  return { scheme, user, password, host, port, segments := [""], query := none }

def isSingleDot (segment : String) : Bool := segment = "." || asciiLower segment = "%2e"

def isDoubleDot (segment : String) : Bool :=
  ["..", ".%2e", "%2e.", "%2e%2e"].contains (asciiLower segment)

/-- A letter and a colon or a bar, which two dots do not lead out of. -/
def isDriveLetter (segment : String) : Bool :=
  match segment.toList with
  | [letter, mark] => letter.isAlpha && (mark = ':' || mark = '|')
  | _ => false

/-- The segments that are left when two dots follow; segments come last first. -/
def leave : List String → List String
  | [] => []
  | last :: outer => if isDriveLetter last then last :: outer else outer

/-- Follows segments from those that are done, which come last first. Dots at the end lead to a directory. -/
def follow (done : List String) : List String → List String
  | [] => done.reverse
  | [last] =>
    if isDoubleDot last then ("" :: leave done).reverse
    else if isSingleDot last then ("" :: done).reverse
    else (last :: done).reverse
  | segment :: rest =>
    if isDoubleDot segment then follow (leave done) rest
    else if isSingleDot segment then follow done rest
    else follow (segment :: done) rest

def segmentsOf (path : List Char) : List String :=
  (split isSlash path).map fun segment => String.ofList (percentEncode isEncodedInPath segment)

def withoutFragment (chars : List Char) : List Char := (cutAt (· = '#') chars).1

def encodeQuery (chars : List Char) : String := String.ofList (percentEncode isEncodedInQuery chars)

/-- The address with the path and the query that a text spells, the path from a directory given last
segment first. -/
def withTarget (address : Address) (directory : List String) (chars : List Char) : Address :=
  match cutAt (· = '?') (withoutFragment chars) with
  | (path, query) =>
    { address with segments := follow directory (segmentsOf path), query := query.map encodeQuery }

/-- Reads an address after its scheme and its slashes. -/
def afterSlashes? (scheme : Scheme) (chars : List Char) : Option Address := do
  let address ← authority? scheme (chars.takeWhile (fun c => !endsAuthority c))
  match chars.dropWhile (fun c => !endsAuthority c) with
  | [] => return address
  | c :: rest => return address.withTarget [] (if isSlash c then rest else c :: rest)

/-- Reads an address relative to another one. -/
def relative? (base : Address) (chars : List Char) : Option Address :=
  match chars with
  | [] => some base
  | c :: rest =>
    if c = '#' then some base
    else if c = '?' then some { base with query := some (encodeQuery (withoutFragment rest)) }
    else if isSlash c then
      if rest.head?.any isSlash then afterSlashes? base.scheme (rest.dropWhile isSlash)
      else some (base.withTarget [] rest)
    else some (base.withTarget base.segments.dropLast.reverse (c :: rest))

/-- Reads an address, relative to another one if that is given. Without slashes behind it, the scheme of
the other address says nothing new. -/
def read? (base : Option Address) (chars : List Char) : Option Address :=
  match scheme? chars with
  | none => base.bind (relative? · chars)
  | some (name, rest) => do
    let scheme ← Scheme.ofName? name
    match base.filter (fun other => other.scheme = scheme && (rest.takeWhile isSlash).length < 2) with
    | some other => relative? other rest
    | none => afterSlashes? scheme (rest.dropWhile isSlash)

def ofText? (text : String) : Option Address := read? none (prepare text)

/-- Where a reference leads that is found at an address. -/
def join? (base : Address) (reference : String) : Option Address := read? (some base) (prepare reference)

def credentialChars (address : Address) : List Char :=
  if address.user.isEmpty && address.password.isEmpty then []
  else address.user.toList ++ (if address.password.isEmpty then [] else ':' :: address.password.toList) ++ ['@']

def portChars (address : Address) : List Char :=
  match address.port with
  | some port => ':' :: Decimal.digits port.toNat
  | none => []

/-- The path, from its first slash. -/
def path (address : Address) : List Char := address.segments.flatMap fun segment => '/' :: segment.toList

/-- The path and the query, as they are asked for. -/
def target (address : Address) : List Char :=
  address.path ++
    (match address.query with
      | some query => '?' :: query.toList
      | none => [])

def chars (address : Address) : List Char :=
  address.scheme.name.toList ++ [':', '/', '/'] ++ address.credentialChars ++ address.host.chars ++ address.portChars ++
    address.target

def text (address : Address) : String := String.ofList address.chars

/-- The named values in the query. -/
def pairs (address : Address) : List Form.Pair :=
  match address.query with
  | some query => Form.pairs query.toList
  | none => []

/-- The same address under another scheme, whose own port is left out. -/
def withScheme (address : Address) (scheme : Scheme) : Address :=
  { address with scheme, port := address.port.filter (· ≠ scheme.defaultPort) }

end Address

end SingleFlight.Web
