import SingleFlight.Dictionary
import SingleFlight.Run.Record

/-!
Status reports: the status of the latest run of a family, with what a person needs to act on it.
-/

namespace SingleFlight.Status

open Time

structure Report where
  status : ShownStatus
  errorClass : Option String
  runId : Option RunId
  directory : Option Path
  instruction : Option String
  startedAt : Option Timestamp
  finishedAt : Option Timestamp
  accessUrl : Option String
  /-- The access address as it was found, where it is shown in another form. -/
  accessUrlRaw : Option String
  liveSession : Option String
  links : Dictionary Path

namespace Report

def unknown : Report := ⟨.unknown, none, none, none, none, none, none, none, none, none, Dictionary.empty⟩

/-- Whether a report can be written down: its times need text forms, and its paths have to be UTF-8. -/
def isPrintable (report : Report) : Bool :=
  report.startedAt.all (·.isPrintable) && report.finishedAt.all (·.isPrintable) && report.directory.all (·.isText) &&
    report.links.entries.all (·.2.isText)

def toJson (report : Report) : Json :=
  .object [("status", .text report.status.name), ("error_class", .ofTextOption report.errorClass),
    ("run_id", .ofOption (fun runId : RunId => .text runId.text) report.runId),
    ("artifact_dir", .ofOption .ofPath report.directory), ("instruction_line", .ofTextOption report.instruction),
    ("started_at", .ofOption .ofTime report.startedAt), ("finished_at", .ofOption .ofTime report.finishedAt),
    ("access_url", .ofTextOption report.accessUrl), ("access_url_raw", .ofTextOption report.accessUrlRaw),
    ("live_session_url", .ofTextOption report.liveSession),
    ("artifact_links", .object (report.links.entries.map fun (name, path) => (name, .ofPath path)))]

def fieldNames : List String :=
  ["status", "error_class", "run_id", "artifact_dir", "instruction_line", "started_at", "finished_at", "access_url",
    "access_url_raw", "live_session_url", "artifact_links"]

def ofJson? (json : Json) : Option Report := do
  let fields ← json.fields? fieldNames
  return {
    status := ← fields.required? "status" fun json => json.name?.bind ShownStatus.ofName?
    errorClass := ← fields.optional? "error_class" Json.text?
    runId := ← fields.optional? "run_id" Json.runId?
    directory := ← fields.optional? "artifact_dir" Json.path?
    instruction := ← fields.optional? "instruction_line" Json.text?
    startedAt := ← fields.optional? "started_at" Json.time?
    finishedAt := ← fields.optional? "finished_at" Json.time?
    accessUrl := ← fields.optional? "access_url" Json.text?
    accessUrlRaw := ← fields.optional? "access_url_raw" Json.text?
    liveSession := ← fields.optional? "live_session_url" Json.text?
    links := ← (fields.required? "artifact_links" (Json.map? Json.path?)).map Dictionary.ofList }

end Report

end SingleFlight.Status
