import SingleFlight.Json.Quoted
import SingleFlight.Json.Value
import SingleFlight.Text.Decimal

/-!
The tokens of JSON text. The scanner takes one glyph at a time, so that scanning a text that is put
together from two is scanning one after the other.
-/

namespace SingleFlight.Json

open Text

inductive Token where
  | openList
  | closeList
  | openObject
  | closeObject
  | comma
  | colon
  | value (value : Json)
  | text (value : Option String)

/-- Drops the digits at the front of a text, of which there must be one. -/
def dropDigits? (chars : List Char) : Option (List Char) :=
  match chars with
  | c :: rest => if Decimal.isDigit c then some (rest.dropWhile Decimal.isDigit) else none
  | [] => none

def exponent? (chars : List Char) : Bool :=
  match chars with
  | '+' :: rest => dropDigits? rest = some []
  | '-' :: rest => dropDigits? rest = some []
  | rest => dropDigits? rest = some []

/-- Whether a text is what may follow the whole part of a number that is no integer. -/
def isFractionOrExponent (chars : List Char) : Bool :=
  match chars with
  | '.' :: rest =>
    match dropDigits? rest with
    | some [] => true
    | some (mark :: more) => (mark = 'e' || mark = 'E') && exponent? more
    | none => false
  | mark :: rest => (mark = 'e' || mark = 'E') && exponent? rest
  | [] => false

/-- A number without its sign: digits with no zero in front, then perhaps more. -/
def unsigned? (negative : Bool) (chars : List Char) : Option Json :=
  let whole := chars.takeWhile Decimal.isDigit
  let rest := chars.dropWhile Decimal.isDigit
  if whole.isEmpty || (whole.head? = some '0' && whole.length ≠ 1) then none
  else if rest.isEmpty then
    if negative then
      if whole = ['0'] then some .foreign else some (.number (-(Decimal.value whole : Int)))
    else some (.number (Decimal.value whole))
  else if isFractionOrExponent rest then some .foreign
  else none

def literal? (chars : List Char) : Option Json :=
  if chars = ['n', 'u', 'l', 'l'] then some .null
  else if chars = ['t', 'r', 'u', 'e'] then some (.bool true)
  else if chars = ['f', 'a', 'l', 's', 'e'] then some (.bool false)
  else match chars with
    | '-' :: rest => unsigned? true rest
    | rest => unsigned? false rest

def isWordChar (c : Char) : Bool := c.isAlphanum || c = '+' || c = '-' || c = '.'

def isSpace (c : Char) : Bool := c = ' ' || c = '\n' || c = '\r' || c = '\t'

/-- Where a scanner stands. What it has collected is kept last first. -/
inductive Place where
  | outside
  | word (chars : List Char)
  | quoted (pieces : List Piece)
  | escaped (pieces : List Piece)
  | unit (pieces : List Piece) (missing : Nat) (value : Nat)

structure Scanner where
  tokens : List Token
  place : Place

namespace Scanner

def start : Scanner := ⟨[], .outside⟩

def outside? (tokens : List Token) (c : Char) : Option Scanner :=
  if isSpace c then some ⟨tokens, .outside⟩
  else if c = '[' then some ⟨.openList :: tokens, .outside⟩
  else if c = ']' then some ⟨.closeList :: tokens, .outside⟩
  else if c = '\x7b' then some ⟨.openObject :: tokens, .outside⟩
  else if c = '\x7d' then some ⟨.closeObject :: tokens, .outside⟩
  else if c = ',' then some ⟨.comma :: tokens, .outside⟩
  else if c = ':' then some ⟨.colon :: tokens, .outside⟩
  else if c = '"' then some ⟨tokens, .quoted []⟩
  else if isWordChar c then some ⟨tokens, .word [c]⟩
  else none

def quoted? (tokens : List Token) (pieces : List Piece) : Glyph → Option Scanner
  | none => some ⟨tokens, .quoted (.malformed :: pieces)⟩
  | some c =>
    if c = '"' then some ⟨.text (join pieces.reverse) :: tokens, .outside⟩
    else if c = '\\' then some ⟨tokens, .escaped pieces⟩
    else if c.toNat < 32 then none
    else some ⟨tokens, .quoted (.char c :: pieces)⟩

def step? (scanner : Scanner) (glyph : Glyph) : Option Scanner :=
  match scanner.place, glyph with
  | .quoted pieces, glyph => quoted? scanner.tokens pieces glyph
  | _, none => none
  | .outside, some c => outside? scanner.tokens c
  | .word chars, some c =>
    if isWordChar c then some ⟨scanner.tokens, .word (c :: chars)⟩
    else (literal? chars.reverse).bind fun value => outside? (.value value :: scanner.tokens) c
  | .escaped pieces, some c =>
    if c = 'u' then some ⟨scanner.tokens, .unit pieces 4 0⟩
    else (shortEscape? c).map fun short => ⟨scanner.tokens, .quoted (.char short :: pieces)⟩
  | .unit pieces missing value, some c =>
    (hexValue? c).map fun digit =>
      if missing ≤ 1 then ⟨scanner.tokens, .quoted (.unit (value * 16 + digit) :: pieces)⟩
      else ⟨scanner.tokens, .unit pieces (missing - 1) (value * 16 + digit)⟩

/-- The tokens of a text that ends here. -/
def finish? (scanner : Scanner) : Option (List Token) :=
  match scanner.place with
  | .outside => some scanner.tokens.reverse
  | .word chars => (literal? chars.reverse).map fun value => (.value value :: scanner.tokens).reverse
  | _ => none

end Scanner

def tokens? (glyphs : List Glyph) : Option (List Token) :=
  (glyphs.foldlM Scanner.step? Scanner.start).bind Scanner.finish?

end SingleFlight.Json
