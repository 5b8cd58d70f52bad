import SingleFlight.Json.Shape
import SingleFlight.Path
import SingleFlight.Run.Id
import SingleFlight.Run.Status
import SingleFlight.Time.Rfc3339

/-!
Run records: one entry of the ledger for each run, written once. The JSON form of a record lists its
fields in the order in which they are declared.
-/

namespace SingleFlight

open Time

/-- The name of a unit of remote work. -/
abbrev Action := String

/-- The name of a tenant, on whose behalf actions run. -/
abbrev Project := String

/-- A number of milliseconds that fits into 64 bits. -/
abbrev Milliseconds := UInt64

structure RunRecord where
  runId : RunId
  project : Project
  action : Action
  startedAt : Timestamp
  finishedAt : Timestamp
  status : RunStatus
  exitCode : Option Int32
  duration : Milliseconds
  errorSummary : Option String
  artifactPaths : List Path
  deriving DecidableEq

namespace Json

def ofTime (time : Timestamp) : Json := .text time.text

/-- A path, with U+FFFD for what is no UTF-8. What holds such a path is not printed at all. -/
def ofPath (path : Path) : Json := .text path.shown

def ofExitCode (code : Option Int32) : Json := ofOption (fun code : Int32 => .number code.toInt) code

def time? (json : Json) : Option Timestamp := json.text?.bind Timestamp.ofText?

def path? (json : Json) : Option Path := json.text?.map Path.ofText

def runId? (json : Json) : Option RunId := json.text?.bind RunId.ofText?

def exitCode? (json : Json) : Option Int32 := json.signed32?.map Int32.ofInt

def milliseconds? (json : Json) : Option Milliseconds := (word? 64 json).map UInt64.ofNat

end Json

namespace RunRecord

/-- Whether the times of a record have text forms; a record without them cannot be kept in any way. -/
def isTimed (record : RunRecord) : Bool := record.startedAt.isPrintable && record.finishedAt.isPrintable

/-- Whether a record can be written down in JSON, which takes no path that is not UTF-8. -/
def isPrintable (record : RunRecord) : Bool := record.isTimed && record.artifactPaths.all (·.isText)

def toJson (record : RunRecord) : Json :=
  .object [("run_id", .text record.runId.text), ("project_id", .text record.project), ("action", .text record.action),
    ("started_at", .ofTime record.startedAt), ("finished_at", .ofTime record.finishedAt),
    ("status", .text record.status.name), ("exit_code", .ofExitCode record.exitCode),
    ("duration_ms", .ofNat record.duration.toNat), ("error_summary", .ofTextOption record.errorSummary),
    ("artifact_paths", .list (record.artifactPaths.map .ofPath))]

def fieldNames : List String :=
  ["run_id", "project_id", "action", "started_at", "finished_at", "status", "exit_code", "duration_ms", "error_summary",
    "artifact_paths"]

def ofJson? (json : Json) : Option RunRecord := do
  let fields ← json.fields? fieldNames
  return {
    runId := ← fields.required? "run_id" Json.runId?
    project := ← fields.required? "project_id" Json.text?
    action := ← fields.required? "action" Json.text?
    startedAt := ← fields.required? "started_at" Json.time?
    finishedAt := ← fields.required? "finished_at" Json.time?
    status := ← fields.required? "status" fun json => json.name?.bind RunStatus.ofName?
    exitCode := ← fields.optional? "exit_code" Json.exitCode?
    duration := ← fields.required? "duration_ms" Json.milliseconds?
    errorSummary := ← fields.optional? "error_summary" Json.text?
    artifactPaths := ← fields.defaulted? "artifact_paths" [] (Json.list? Json.path?) }

end RunRecord

end SingleFlight
