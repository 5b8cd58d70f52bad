import SingleFlight.Gateway.Exchange
import SingleFlight.Gateway.Response
import SingleFlight.Json.Reader

/-!
How the outcome of an exchange becomes a gateway response. What a body claims of its own HTTP status
counts for nothing, and no answer at all has none.
-/

namespace SingleFlight.Gateway

open Text

/-- What the gateway says when its policy refuses a run. -/
structure Denial where
  errorClass : Option String
  requiredCondition : Option String
  error : Option String
  directory : Option Path
  deriving DecidableEq

namespace Denial

def blank : Denial := ⟨none, none, none, none⟩

def fieldNames : List String := ["error_class", "required_condition", "error", "artifact_dir"]

def ofJson? (json : Json) : Option Denial := do
  let fields ← json.fields? fieldNames
  return {
    errorClass := ← fields.defaulted? "error_class" none (Json.nullable? Json.text?)
    requiredCondition := ← fields.defaulted? "required_condition" none (Json.nullable? Json.text?)
    error := ← fields.defaulted? "error" none (Json.nullable? Json.text?)
    directory := ← fields.defaulted? "artifact_dir" none (Json.nullable? Json.path?) }

def response (denial : Denial) (elapsed : Milliseconds) : Response :=
  let errorClass := denial.errorClass.getD deniedClass
  { Response.blank with
    duration := elapsed
    directory := denial.directory
    error := some (denial.error.getD ("execution refused by policy gate (" ++ errorClass ++ ")"))
    httpStatus := some lockedStatus
    errorClass := some errorClass
    requiredCondition := denial.requiredCondition }

end Denial

namespace Answer

/-- The content of an answer. Two statuses stand for answers without any. -/
def content (answer : Answer) : List Byte := if answer.status = 204 ∨ answer.status = 304 then [] else answer.body

def httpStatus (answer : Answer) : UInt16 := UInt16.ofNat answer.status

/-- The response that the content of an answer spells. -/
def response? (answer : Answer) : Option Response := (Json.ofBytes? answer.content).bind Response.ofJson?

def timed (response : Response) (elapsed : Milliseconds) : Response :=
  if response.duration = 0 then { response with duration := elapsed } else response

/-- The response of a gateway that has run the action. -/
def success (answer : Answer) (elapsed : Milliseconds) : Response :=
  match answer.response? with
  | some response => { timed response elapsed with httpStatus := some answer.httpStatus }
  | none =>
    { Response.failure badResponseClass "gateway returned an unreadable body: not a response in JSON" elapsed with
      httpStatus := some answer.httpStatus }

def denied (answer : Answer) (elapsed : Milliseconds) : Response :=
  (((Json.ofBytes? answer.content).bind Denial.ofJson?).getD Denial.blank).response elapsed

/-- The response of a gateway that reports a failure of its own. -/
def failed (answer : Answer) (elapsed : Milliseconds) : Response :=
  let response := timed (answer.response?.getD Response.blank) elapsed
  { response with
    ok := false
    httpStatus := some answer.httpStatus
    errorClass := some (response.errorClass.getD ("GATEWAY_HTTP_" ++ Decimal.text answer.status))
    error := some (response.error.getD ("gateway responded with HTTP " ++ Decimal.text answer.status)) }

def response (answer : Answer) (elapsed : Milliseconds) : Response :=
  if answer.status < 400 then answer.success elapsed
  else if answer.httpStatus = lockedStatus then answer.denied elapsed
  else answer.failed elapsed

end Answer

def Trouble.response (trouble : Trouble) (bound : Option Nat) (elapsed : Milliseconds) : Response :=
  if trouble.isTimeout then
    Response.failure timeoutClass ("gateway did not respond within " ++ Decimal.text (bound.getD 0) ++ "ms") elapsed
  else Response.failure unreachableClass ("gateway unreachable: " ++ trouble.message) elapsed

/-- The response for the outcome of an exchange that took a time. -/
def Response.ofOutcome (bound : Option Nat) (elapsed : Milliseconds) (outcome : Except Trouble Answer) : Response :=
  match outcome with
  | .ok answer => (answer.response elapsed).truncateStreams
  | .error trouble => (trouble.response bound elapsed).truncateStreams

end SingleFlight.Gateway
