import SingleFlight.Run.Record
import SingleFlight.Text.Utf8

/-!
Gateway responses: the one shape in which every outcome of a run comes back, failures to reach the
gateway included.
-/

namespace SingleFlight.Gateway

open Text

structure Request where
  action : Action
  target : String
  runId : RunId
  deriving DecidableEq

structure Response where
  ok : Bool
  stdout : String
  stderr : String
  exitCode : Option Int32
  duration : Milliseconds
  directory : Option Path
  error : Option String
  httpStatus : Option UInt16
  errorClass : Option String
  requiredCondition : Option String
  deriving DecidableEq

/-- The HTTP status with which a policy gate refuses a run. -/
def lockedStatus : UInt16 := 423

def timeoutClass : String := "GATEWAY_TIMEOUT"

def unreachableClass : String := "GATEWAY_UNREACHABLE"

def badResponseClass : String := "GATEWAY_BAD_RESPONSE"

def deniedClass : String := "ADMISSION_DENIED"

def panickedClass : String := "GATEWAY_PANICKED"

/-- How many bytes of an output stream are kept. -/
def streamLimit : Nat := 131072

namespace Response

def blank : Response := ⟨false, "", "", none, 0, none, none, none, none, none⟩

def failure (errorClass error : String) (duration : Milliseconds) : Response :=
  { blank with errorClass := some errorClass, error := some error, duration }

/-- Whether a policy gate refused the run. -/
def isAdmissionDenied (response : Response) : Bool := response.httpStatus = some lockedStatus

/-- Whether there is no verdict from the other side. -/
def isTransportFailure (response : Response) : Bool := !response.ok && response.httpStatus.isNone

/-- Keeps the end of each output stream. -/
def truncateStreams (response : Response) : Response :=
  { response with
    stdout := Utf8.tailWindow streamLimit response.stdout
    stderr := Utf8.tailWindow streamLimit response.stderr }

def toJson (response : Response) : Json :=
  .object [("ok", .bool response.ok), ("stdout", .text response.stdout), ("stderr", .text response.stderr),
    ("exit_code", .ofExitCode response.exitCode), ("duration_ms", .ofNat response.duration.toNat),
    ("artifact_dir", .ofOption .ofPath response.directory), ("error", .ofTextOption response.error),
    ("http_status", .ofOption (fun status : UInt16 => .ofNat status.toNat) response.httpStatus),
    ("error_class", .ofTextOption response.errorClass), ("required_condition", .ofTextOption response.requiredCondition)]

def fieldNames : List String :=
  ["ok", "stdout", "stderr", "exit_code", "duration_ms", "artifact_dir", "error", "http_status", "error_class",
    "required_condition"]

def httpStatus? (json : Json) : Option UInt16 := (json.word? 16).map UInt16.ofNat

def ofJson? (json : Json) : Option Response := do
  let fields ← json.fields? fieldNames
  return {
    ok := ← fields.defaulted? "ok" false Json.bool?
    stdout := ← fields.defaulted? "stdout" "" Json.text?
    stderr := ← fields.defaulted? "stderr" "" Json.text?
    exitCode := ← fields.defaulted? "exit_code" none (Json.nullable? Json.exitCode?)
    duration := ← fields.defaulted? "duration_ms" 0 Json.milliseconds?
    directory := ← fields.defaulted? "artifact_dir" none (Json.nullable? Json.path?)
    error := ← fields.defaulted? "error" none (Json.nullable? Json.text?)
    httpStatus := ← fields.defaulted? "http_status" none (Json.nullable? httpStatus?)
    errorClass := ← fields.defaulted? "error_class" none (Json.nullable? Json.text?)
    requiredCondition := ← fields.defaulted? "required_condition" none (Json.nullable? Json.text?) }

end Response

end SingleFlight.Gateway
