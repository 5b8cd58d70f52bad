import SingleFlight.Config.Problem
import SingleFlight.Ledger.SqlFailure
import SingleFlight.Run.Record

/-!
Faults: every cause for which an operation is refused or fails, with its kind, its wording, and the
action or the run that it is about.
-/

namespace SingleFlight

inductive FaultKind where
  | notAllowlisted
  | invalidInput
  | parseFailure
  | storageFailure
  | configuration
  | internal
  deriving DecidableEq

inductive Fault where
  | unknownAction (action : Action)
  | actionNotAllowed (action : Action) (project : Project)
  | invalidRunId (text : String)
  | unknownRunStatus (text : String)
  | recordExists (run : RunId)
  | recordUnprintable (run : RunId)
  | recordInvalid (run : RunId)
  | recordMisfiled (run found : RunId)
  | fileStore (operation : String) (failure : Files.Failure) (run : Option RunId)
  | sqlStore (operation : String) (failure : Ledger.SqlFailure) (run : Option RunId)
  | snapshotUnprintable
  | snapshotNotWritten (failure : Files.Failure)
  | configuration (problem : Config.Problem)
  | unknownFamily (name : String)
  | outputUnprintable
  deriving DecidableEq

namespace Fault

def kind : Fault → FaultKind
  | unknownAction _ | actionNotAllowed _ _ => .notAllowlisted
  | invalidRunId _ | unknownFamily _ => .invalidInput
  | unknownRunStatus _ | recordInvalid _ | recordMisfiled _ _ => .parseFailure
  | recordExists _ | fileStore _ _ _ | sqlStore _ _ _ | snapshotNotWritten _ => .storageFailure
  | configuration _ => .configuration
  | recordUnprintable _ | snapshotUnprintable | outputUnprintable => .internal

def message : Fault → String
  | unknownAction action => "unknown action '" ++ action ++ "'"
  | actionNotAllowed action project => "action '" ++ action ++ "' is not allowlisted for project '" ++ project ++ "'"
  | invalidRunId text => "run id '" ++ text ++ "' contains characters outside [A-Za-z0-9-]"
  | unknownRunStatus text => "unknown run status '" ++ text ++ "'"
  | recordExists run => "run record '" ++ run.text ++ "' already exists"
  | recordUnprintable _ => "failed to encode run record: a time or a path of it has no text form"
  | recordInvalid run => "run record '" ++ run.text ++ "' is not valid: not a run record in JSON"
  | recordMisfiled run found => "run record file '" ++ run.text ++ "' contains run id '" ++ found.text ++ "'"
  | fileStore operation failure _ => "file run store '" ++ operation ++ "' failed: " ++ failure.message
  | sqlStore operation failure _ => "sqlite run store '" ++ operation ++ "' failed: " ++ failure.message
  | snapshotUnprintable => "failed to encode status snapshot: a time or a path of it has no text form"
  | snapshotNotWritten failure => "failed to write status snapshot: " ++ failure.message
  | configuration problem => problem.message
  | unknownFamily name => "unknown status family '" ++ name ++ "'"
  | outputUnprintable => "failed to render output: a time or a path of it has no text form"

/-- The action that a fault is about. -/
def action? : Fault → Option Action
  | unknownAction action | actionNotAllowed action _ => some action
  | _ => none

/-- The run that a fault is about. -/
def run? : Fault → Option RunId
  | recordExists run | recordUnprintable run | recordInvalid run | recordMisfiled run _ => some run
  | fileStore _ _ run | sqlStore _ _ run => run
  | _ => none

/-- The same fault, told of a run. -/
def ofRun (run : RunId) : Fault → Fault
  | fileStore operation failure _ => fileStore operation failure (some run)
  | sqlStore operation failure _ => sqlStore operation failure (some run)
  | fault => fault

end Fault

end SingleFlight
