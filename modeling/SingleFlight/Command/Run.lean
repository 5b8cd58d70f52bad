import SingleFlight.Command.Arguments
import SingleFlight.Command.Machine
import SingleFlight.Flight.Opening
import SingleFlight.Json.Printer
import SingleFlight.Status.Snapshot

/-!
Running a command: what it prints, what it complains of, and the exit code that tells callers whether
the run went well, failed, was misused, came too late or was denied.
-/

namespace SingleFlight.Command

open Gateway Ledger

structure Result where
  exitCode : Nat
  output : Option String
  complaint : Option String
  deriving DecidableEq

def exitWell : Nat := 0

def exitFailed : Nat := 1

def exitMisused : Nat := 2

def exitBusy : Nat := 3

def exitDenied : Nat := 4

def versionText : String := "opsgate 0.4.2"

def usageText : String := "usage: opsgate [--config <CONFIG>] <run|runs|status|health>"

/-- A line of complaint. -/
def complain (exitCode : Nat) (text : String) : Result := ⟨exitCode, none, some ("opsgate: " ++ text)⟩

def faultExit (fault : Fault) : Nat :=
  match fault.kind with
  | .configuration | .invalidInput | .notAllowlisted => exitMisused
  | .parseFailure | .storageFailure | .internal => exitFailed

def ofFault (fault : Fault) : Result := complain (faultExit fault) fault.message

/-- Prints what can be printed. -/
def print (exitCode : Nat) (isPrintable : Bool) (json : Json) : Result :=
  if isPrintable then ⟨exitCode, some json.indented, none⟩ else ofFault .outputUnprintable

def outcomeExit : Outcome → Nat
  | .completed record _ => if record.status = .success then exitWell else exitFailed
  | .busy _ => exitBusy
  | .denied _ => exitDenied

def ofOutcome (outcome : Outcome) : Result := print (outcomeExit outcome) outcome.isPrintable outcome.toJson

def ofInterruption : Interruption → Result
  | .help => ⟨exitWell, some usageText, none⟩
  | .version => ⟨exitWell, some versionText, none⟩
  | .misuse => ⟨exitMisused, none, some usageText⟩

def recordsJson (records : List RunRecord) : Json := .list (records.map RunRecord.toJson)

/-- Runs an action, on locks that nobody else holds. -/
def runAction (coordinator : Coordinator Files.Tree) (client : Client) (project : Project) (action : Action)
    (machine : Machine) : Result × Machine :=
  match coordinator.invoke (fun request => client.execute Script.network request machine.elapsed) project action
    machine.now machine.now machine.suffix machine.nonce (Desk.opened machine.tree) machine.script with
  | (notice, desk, script) =>
    let result := match notice with
      | .refused fault => ofFault fault
      | .busy busy => ofOutcome (.busy busy)
      | .ended outcome => ofOutcome outcome
      | _ => complain exitFailed "the clock shows no time in UTC"
    (result, { machine with tree := desk.ledger, script })

/-- Does the task of a command with the coordinator that the settings ask for. -/
def perform (settings : Config.Settings) (coordinator : Coordinator Files.Tree) (task : Task) (machine : Machine) :
    Result × Machine :=
  match task with
  | .run project action => runAction coordinator settings.gateway.client project action machine
  | .list limit project beginning =>
    match coordinator.store.listMatching ⟨project, beginning.map .named⟩ limit machine.tree with
    | (records, tree) => (print exitWell (records.all (·.isPrintable)) (recordsJson records), { machine with tree })
  | .lookUp runId =>
    match coordinator.store.read runId machine.tree with
    | (some record, tree) => (print exitWell record.isPrintable record.toJson, { machine with tree })
    | (none, tree) => (complain exitFailed ("run '" ++ runId ++ "' not found"), { machine with tree })
  | .status name =>
    match settings.family? name with
    | none => (ofFault (.unknownFamily name), machine)
    | some family =>
      match Status.resolveAndSnapshot coordinator.store family machine.nonce machine.tree with
      | ((report, _), tree) => (print exitWell report.isPrintable report.toJson, { machine with tree })
  | .health =>
    match settings.gateway.client.checkHealth Script.network machine.elapsed machine.script with
    | (report, script) =>
      (print (if report.ok then exitWell else exitFailed) true report.toJson, { machine with script })

/-- Runs a command line. -/
def run (arguments : List String) (machine : Machine) : Result × Machine :=
  match Arguments.read arguments with
  | .error interruption => (ofInterruption interruption, machine)
  | .ok arguments =>
    match Config.Settings.load machine.tree machine.environment arguments.config with
    | .error problem => (ofFault (.configuration problem), machine)
    | .ok settings =>
      match Coordinator.ofSettings settings machine.tree with
      | (.error fault, tree) => (ofFault fault, { machine with tree })
      | (.ok coordinator, tree) => perform settings coordinator arguments.task { machine with tree }

end SingleFlight.Command
