import SingleFlight.Gateway.Verdict

/-!
Outcomes of invocations, as callers see them.
-/

namespace SingleFlight

open Gateway Time

/-- An answer to a caller who came too late: the run that is under way, which is to be joined. -/
structure Busy where
  action : Action
  activeRun : RunId
  startedAt : Timestamp
  deriving DecidableEq

/-- A run that the policy of the gateway refused. -/
structure Denied where
  errorClass : String
  requiredCondition : Option String
  runId : RunId
  directory : Option Path
  deriving DecidableEq

inductive Outcome where
  | completed (record : RunRecord) (response : Response)
  | busy (busy : Busy)
  | denied (denied : Denied)
  deriving DecidableEq

namespace Outcome

/-- The outcome of a run that was recorded. -/
def ofRecord (record : RunRecord) (response : Response) : Outcome :=
  if response.isAdmissionDenied then
    .denied ⟨response.errorClass.getD deniedClass, response.requiredCondition, record.runId, response.directory⟩
  else .completed record response

def runId : Outcome → RunId
  | completed record _ => record.runId
  | busy rejection => rejection.activeRun
  | denied denial => denial.runId

/-- Whether an outcome can be written down: its times need text forms, and its paths have to be UTF-8. -/
def isPrintable : Outcome → Bool
  | completed record response => record.isPrintable && response.directory.all (·.isText)
  | busy rejection => rejection.startedAt.isPrintable
  | denied denial => denial.directory.all (·.isText)

def toJson : Outcome → Json
  | completed record response =>
    .object [("outcome", .text "completed"), ("record", record.toJson), ("response", response.toJson)]
  | busy rejection =>
    .object [("outcome", .text "busy"), ("acquired", .bool false), ("action", .text rejection.action),
      ("active_run_id", .text rejection.activeRun.text), ("started_at", .ofTime rejection.startedAt)]
  | denied denial =>
    .object [("outcome", .text "denied"), ("error_class", .text denial.errorClass),
      ("required_condition", .ofTextOption denial.requiredCondition), ("run_id", .text denial.runId.text),
      ("artifact_dir", .ofOption .ofPath denial.directory)]

end Outcome

end SingleFlight
