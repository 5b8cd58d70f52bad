import SingleFlight.Json.Shape
import SingleFlight.Run.Status

/-!
Findings: what the artifacts of a run say of it. Any of them may be silent on any point.
-/

namespace SingleFlight.Status

open Text

structure Findings where
  status : Option String
  errorClass : Option String
  instruction : Option String
  accessUrl : Option String
  deriving DecidableEq

/-- The first of several texts that says something. -/
def firstFilled (texts : List (Option String)) : Option String := texts.findSome? filled

namespace Findings

def nothing : Findings := ⟨none, none, none, none⟩

/-- Adds what other findings say on points that are still open. -/
def fillFrom (found other : Findings) : Findings where
  status := found.status.or other.status
  errorClass := found.errorClass.or other.errorClass
  instruction := found.instruction.or other.instruction
  accessUrl := found.accessUrl.or other.accessUrl

/-- Lets a marker have its say before anything else, except on the class of the error. -/
def overrideWith (found marker : Findings) : Findings where
  status := marker.status.or found.status
  errorClass := found.errorClass.or marker.errorClass
  instruction := marker.instruction.or found.instruction
  accessUrl := marker.accessUrl.or found.accessUrl

def fieldNames : List String := ["status", "error_class", "instruction_line", "access_url", "url", "novnc_url"]

/-- A text field that may be missing and may be null. -/
def textField? (fields : Json.Fields) (name : String) : Option (Option String) :=
  fields.defaulted? name none (Json.nullable? Json.text?)

/-- The access address is given under any of three names, of which the first filled one counts. -/
def accessUrl? (fields : Json.Fields) : Option (Option String) := do
  return firstFilled [← textField? fields "access_url", ← textField? fields "url", ← textField? fields "novnc_url"]

def ofJson? (json : Json) : Option Findings := do
  let fields ← json.fields? fieldNames
  return {
    status := ← textField? fields "status"
    errorClass := ← textField? fields "error_class"
    instruction := ← textField? fields "instruction_line"
    accessUrl := ← accessUrl? fields }

def toJson (found : Findings) : Json :=
  .object [("status", .ofTextOption found.status), ("error_class", .ofTextOption found.errorClass),
    ("instruction_line", .ofTextOption found.instruction), ("access_url", .ofTextOption found.accessUrl)]

end Findings

end SingleFlight.Status
