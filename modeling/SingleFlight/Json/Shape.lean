import SingleFlight.Json.Value

/-!
Reading typed values out of JSON. A record is written as an object, or as the list of its fields in
their order; a known field may not occur twice, and unknown fields are passed over.
-/

namespace SingleFlight.Json

def text? : Json → Option String
  | .text value => some value
  | _ => none

def bool? : Json → Option Bool
  | .bool value => some value
  | _ => none

/-- A whole number between two bounds. -/
def within? (least greatest : Int) : Json → Option Int
  | .number value => if least ≤ value ∧ value ≤ greatest then some value else none
  | _ => none

/-- A natural number below `2 ^ bits`. -/
def word? (bits : Nat) (json : Json) : Option Nat := (within? 0 ((Nat.pow 2 bits : Int) - 1) json).map Int.toNat

/-- A whole number in two's complement of 32 bits. -/
def signed32? (json : Json) : Option Int := within? (-2147483648) 2147483647 json

def list? {α : Type} (read : Json → Option α) : Json → Option (List α)
  | .list items => items.mapM read
  | _ => none

/-- The fields of an object used as a map; where a name occurs twice, both are kept. -/
def map? {α : Type} (read : Json → Option α) : Json → Option (List (String × α))
  | .object fields => fields.mapM (fun field => (read field.2).map (field.1, ·))
  | _ => none

def nullable? {α : Type} (read : Json → Option α) : Json → Option (Option α)
  | .null => some none
  | json => (read json).map some

/-- A name from a fixed set, written as a text or as an object that maps it to null. -/
def name? : Json → Option String
  | .text value => some value
  | .object [(key, .null)] => some key
  | _ => none

/-- The fields of a record as they were given. -/
structure Fields where
  positional : Bool
  given : List (String × Json)

def countName (name : String) (fields : List (String × Json)) : Nat := fields.countP (·.1 == name)

/-- The fields of a record whose field names are given, in their order. -/
def fields? (names : List String) : Json → Option Fields
  | .object fields => if names.all (fun name => countName name fields ≤ 1) then some ⟨false, fields⟩ else none
  | .list items => if items.length ≤ names.length then some ⟨true, names.zip items⟩ else none
  | _ => none

namespace Fields

def find? (fields : Fields) (name : String) : Option Json := (fields.given.find? (·.1 == name)).map (·.2)

/-- A field that must be given. -/
def required? {α : Type} (fields : Fields) (name : String) (read : Json → Option α) : Option α :=
  (fields.find? name).bind read

/-- A field that an object may leave out. -/
def optional? {α : Type} (fields : Fields) (name : String) (read : Json → Option α) : Option (Option α) :=
  match fields.find? name with
  | some json => nullable? read json
  | none => if fields.positional then none else some none

/-- A field that an object and a list may leave out. -/
def defaulted? {α : Type} (fields : Fields) (name : String) (value : α) (read : Json → Option α) : Option α :=
  match fields.find? name with
  | some json => read json
  | none => some value

end Fields

end SingleFlight.Json
