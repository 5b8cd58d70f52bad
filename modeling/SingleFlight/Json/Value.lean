/-!
JSON values, as they are written and as they are read.
-/

namespace SingleFlight

/-- A JSON value. `foreign` is what is left of text that has the right form and yet stands for
nothing that is read here: a number with a fraction or an exponent, a string that spells no text, an
object with such a key. It can be skipped and never used. -/
inductive Json where
  | null
  | bool (value : Bool)
  | number (value : Int)
  | text (value : String)
  | list (items : List Json)
  | object (fields : List (String × Json))
  | foreign

namespace Json

def ofNat (value : Nat) : Json := .number value

/-- A value that may be missing, written as null when it is. -/
def ofOption {α : Type} (write : α → Json) : Option α → Json
  | none => .null
  | some value => write value

def ofTextOption (value : Option String) : Json := ofOption .text value

def ofTexts (values : List String) : Json := .list (values.map .text)

/-- The value of a field of an object, the last one where a name occurs twice. -/
def field? (name : String) : Json → Option Json
  | .object fields => (fields.reverse.find? (·.1 == name)).map (·.2)
  | _ => none

def isNull : Json → Bool
  | .null => true
  | _ => false

end Json

end SingleFlight
