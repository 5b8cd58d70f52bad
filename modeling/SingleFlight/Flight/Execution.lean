import SingleFlight.Gateway.Verdict

/-!
Executions: runs that were admitted. Each makes one request of the gateway and leaves one record.
-/

namespace SingleFlight

open Gateway Time

/-- An admitted run. It starts when its lock was granted. -/
structure Execution where
  project : Project
  action : Action
  target : String
  runId : RunId
  startedAt : Timestamp
  deriving DecidableEq

namespace Execution

def request (execution : Execution) : Request := ⟨execution.action, execution.target, execution.runId⟩

/-- The record of an execution that the gateway answered. -/
def record (execution : Execution) (response : Response) (finishedAt : Timestamp) : RunRecord where
  runId := execution.runId
  project := execution.project
  action := execution.action
  startedAt := execution.startedAt
  finishedAt := finishedAt
  status := response.runStatus
  exitCode := response.exitCode
  duration := response.duration
  errorSummary := response.errorSummary
  artifactPaths := response.directory.toList

end Execution

end SingleFlight
