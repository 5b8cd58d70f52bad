import SingleFlight.Ledger.Store
import SingleFlight.Status.Extraction
import SingleFlight.Status.Family
import SingleFlight.Status.Report
import SingleFlight.Status.Session
import SingleFlight.Web.Viewer

/-!
Resolving the status of a family: its latest run, what the artifacts of that run say, and a live
session where a person is needed. Nothing is remembered from one time to the next, and whatever
cannot be read only leaves the report poorer.
-/

namespace SingleFlight.Status

open Files Ledger Text Web

/-- What is known of a run that no artifacts are found for. -/
def bareReport (record : RunRecord) : Report :=
  { Report.unknown with
    runId := some record.runId, startedAt := some record.startedAt, finishedAt := some record.finishedAt }

/-- The status that findings come to. -/
def statusOf (family : Family) (found : Findings) : ShownStatus :=
  reclassify family.authClasses ((found.status.map ShownStatus.normalize).getD .unknown) found.errorClass

/-- The address of a live session, looked for only where a person is needed. -/
def liveSessionFor? (tree : Tree) (family : Family) (status : ShownStatus) : Option String :=
  if status = .waitingForHuman then
    (family.sessionRoot.bind (liveSession? tree)).map Viewer.canonicalize
  else none

/-- The report on a run whose artifacts are in a directory. -/
def directoryReport (tree : Tree) (family : Family) (record : RunRecord) (directory : Path) : Report :=
  let found := extract tree directory
  let raw := filled found.accessUrl
  let status := statusOf family found
  { bareReport record with
    status
    errorClass := found.errorClass
    instruction := found.instruction
    accessUrl := raw.map Viewer.canonicalize
    accessUrlRaw := raw.filter fun text => Viewer.canonicalize text ≠ text
    liveSession := liveSessionFor? tree family status
    links := links tree directory
    directory := some directory }

/-- The report on a run. -/
def resolveRecord (tree : Tree) (family : Family) (record : RunRecord) : Report :=
  match findDirectory? tree record family.proofRoot family.gatewayRoot with
  | some directory => directoryReport tree family record directory
  | none => bareReport record

/-- The report on the latest run of a family. -/
def resolve (store : RunStore Tree) (family : Family) (tree : Tree) : Report × Tree :=
  match store.latest family.actions tree with
  | (some record, changed) => (resolveRecord changed family record, changed)
  | (none, changed) => (Report.unknown, changed)

end SingleFlight.Status
