import SingleFlight.Files.Effect
import SingleFlight.Ledger.Migration
import SingleFlight.Ledger.Store

/-!
The ledger as two tables, one row for each run and one for each of its artifact paths. Both are
written in one transaction. Rows may have been written by others, so each is checked as it is read.
-/

namespace SingleFlight.Ledger

open Files Text Time

namespace SqlStore

/-- The tables as the ledger needs them: the table of versions is made if need be, and the schema must
have been brought to the latest version. -/
def ready (database : Database) : Except SqlFailure Unit × Database :=
  let opened := database.withVersions
  if opened.version < Migration.latestVersion then (.error .schemaOutdated, opened) else (.ok (), opened)

/-- The greatest number that a column of whole numbers holds. -/
def greatestInteger : Nat := Nat.pow 2 63 - 1

def runRow (record : RunRecord) : RunRow where
  runId := some ↑record.runId.text
  project := record.project
  action := record.action
  startedAt := record.startedAt.text
  finishedAt := record.finishedAt.text
  status := record.status.name
  exitCode := record.exitCode.map fun code => .integer code.toInt
  duration := .integer record.duration.toNat
  errorSummary := record.errorSummary.map fun text : String => .text text

def pathRows (record : RunRecord) : List PathRow :=
  record.artifactPaths.zipIdx.map fun (path, position) => ⟨record.runId.text, .integer position, path.shown⟩

/-- The rows of a record, put in as one. -/
def insertRecord (record : RunRecord) (database : Database) : Except SqlFailure Database := do
  if !record.isTimed then .error .unprintableTime
  else if greatestInteger < record.duration.toNat then .error .valueTooLarge
  else
    let inserted ← database.insertRun (runRow record)
    if inserted.paths.isNone then .error (Database.noSuchTable "run_artifact_paths")
    else (pathRows record).foldlM (fun held row => held.insertPath row) inserted

def append (record : RunRecord) (database : Database) : Except SqlFailure Unit × Database :=
  match ready database with
  | (.error failure, opened) => (.error failure, opened)
  | (.ok (), opened) =>
    match insertRecord record opened with
    | .ok changed => (.ok (), changed)
    | .error failure => (.error failure, opened)

def wrongType (column : String) : SqlFailure := .engine ("Invalid column type in " ++ column)

def outOfRange (column : String) : SqlFailure := .engine ("Integer out of range in " ++ column)

def text? (column : String) (cell : TextCell) : Except SqlFailure String :=
  match cell.text? with
  | some text => .ok text
  | none => .error (wrongType column)

def key? : Option TextCell → Except SqlFailure String
  | some cell => text? "run_id" cell
  | none => .error (wrongType "run_id")

def errorSummary? : Option TextCell → Except SqlFailure (Option String)
  | some cell => return some (← text? "error_summary" cell)
  | none => .ok none

def integer? (column : String) : NumberCell → Except SqlFailure Int
  | .integer value => .ok value
  | _ => .error (wrongType column)

def exitCode? : Option NumberCell → Except SqlFailure (Option Int32)
  | none => .ok none
  | some cell => do
    let value ← integer? "exit_code" cell
    if -2147483648 ≤ value ∧ value < 2147483648 then .ok (some (Int32.ofInt value)) else .error (outOfRange "exit_code")

def time? (text : String) : Except SqlFailure Timestamp :=
  match Timestamp.ofText? text with
  | some time => .ok time
  | none => .error (.invalidTimestamp text)

/-- The record that a row spells, without its artifact paths. -/
def decode (row : RunRow) : Except SqlFailure RunRecord := do
  let runIdText ← key? row.runId
  let project ← text? "project_id" row.project
  let action ← text? "action" row.action
  let startedText ← text? "started_at" row.startedAt
  let finishedText ← text? "finished_at" row.finishedAt
  let statusText ← text? "status" row.status
  let exitCode ← exitCode? row.exitCode
  let duration ← integer? "duration_ms" row.duration
  let errorSummary ← errorSummary? row.errorSummary
  let runId ← match RunId.ofText? runIdText with
    | some runId => .ok runId
    | none => .error (.invalidRunId runIdText)
  let status ← match RunStatus.ofName? statusText with
    | some status => .ok status
    | none => .error (.unknownStatus statusText)
  let startedAt ← time? startedText
  let finishedAt ← time? finishedText
  if duration < 0 then .error .negativeDuration
  else .ok {
    runId, project, action, startedAt, finishedAt, status, exitCode, duration := UInt64.ofNat duration.toNat,
    errorSummary, artifactPaths := [] }

/-- The path that a row spells. -/
def decodePath (row : PathRow) : Except SqlFailure Path := return .ofText (← text? "path" row.path)

/-- The artifact paths of a run, in the order of their positions. -/
def loadPaths (database : Database) (runId : RunId) : Except SqlFailure (List Path) :=
  match database.paths with
  | none => .error (Database.noSuchTable "run_artifact_paths")
  | some rows =>
    ((rows.filter (·.runId = (runId.text : TextCell))).mergeSort
      (fun first second => first.position.isAtMost second.position)).mapM decodePath

def withPaths (database : Database) (record : RunRecord) : Except SqlFailure RunRecord := do
  return { record with artifactPaths := ← loadPaths database record.runId }

def runRows (database : Database) : Except SqlFailure (List RunRow) :=
  match database.runs with
  | none => .error (Database.noSuchTable "run_records")
  | some rows => .ok rows

def find (runId : RunId) (database : Database) : Except SqlFailure (Option RunRecord) := do
  match (← runRows database).find? (·.runId = some ↑runId.text) with
  | none => return none
  | some row => return some (← withPaths database (← decode row))

/-- Falling order of keys; a row without a key comes last. -/
def comesFirst (first second : RunRow) : Bool :=
  match first.runId, second.runId with
  | some firstId, some secondId => secondId.isAtMost firstId
  | _, none => true
  | none, some _ => false

/-- Reads rows, and keeps those that a filter keeps, until enough are found. A row that cannot be read
ends the search. -/
def collect (filter : RunFilter) : Nat → List RunRow → Except SqlFailure (List RunRecord)
  | 0, _ => .ok []
  | _ + 1, [] => .ok []
  | limit + 1, row :: rest =>
    match decode row with
    | .error failure => .error failure
    | .ok record =>
      if filter.keeps record then (collect filter limit rest).map (record :: ·)
      else collect filter (limit + 1) rest

def recent (filter : RunFilter) (limit : Nat) (database : Database) : Except SqlFailure (List RunRecord) := do
  let rows := (← runRows database).filter fun row =>
    filter.project.all fun project : Project => row.project = .text project
  (← collect filter limit (rows.mergeSort comesFirst)).mapM (withPaths database)

/-- Reads from tables that are ready. -/
def query {α : Type} (read : Database → Except SqlFailure α) (database : Database) : Except SqlFailure α × Database :=
  match ready database with
  | (.error failure, opened) => (.error failure, opened)
  | (.ok (), opened) => (read opened, opened)

/-- Names under which a database lives only as long as it is in use. -/
def isTransient (path : Path) : Bool := path.text.isEmpty || path.text = ":memory:"

/-- The outer directory of a path, if it names one. -/
def outerDirectory? (path : Path) : Option Path := path.parent?.filter (fun outer => !outer.text.isEmpty)

/-- The database at a path, and where it is kept. A missing or an empty file holds an empty database. -/
def openAt (path : Path) (tree : Tree) : Except SqlFailure (Location × Database) :=
  match tree.locate path with
  | .error failure => .error (.engine ("unable to open database file: " ++ failure.message))
  | .ok location =>
    match tree.find? location with
    | none => .ok (location, Database.empty)
    | some (.database database) => .ok (location, database)
    | some (.file []) => .ok (location, Database.empty)
    | some (.file _) => .error (.engine "file is not a database")
    | some _ => .error (.engine "unable to open database file")

/-- Works on the database at a path, and keeps what has become of it. -/
def useAt {α : Type} (path : Path) (work : Database → Except SqlFailure α × Database) (tree : Tree) :
    Except SqlFailure α × Tree :=
  match openAt path tree with
  | .error failure => (.error failure, tree)
  | .ok (location, database) => ((work database).1, tree.put location (.database (work database).2))

/-- Works on the database at a path, after making the directories that lead to it. -/
def use {α : Type} (path : Path) (work : Database → Except SqlFailure α × Database) (tree : Tree) :
    Except SqlFailure α × Tree :=
  match outerDirectory? path with
  | some outer =>
    match tree.makeDirectories outer with
    | (.error failure, opened) => (.error (.engine failure.message), opened)
    | (.ok (), opened) => useAt path work opened
  | none => if isTransient path then ((work Database.empty).1, tree) else useAt path work tree

/-- Works on the database at a path, and names the operation in the fault if there is one. -/
def withDatabase {α : Type} (operation : String) (path : Path) (work : Database → Except SqlFailure α × Database)
    (tree : Tree) : Except Fault α × Tree :=
  match use path work tree with
  | (.ok value, changed) => (.ok value, changed)
  | (.error failure, changed) => (.error (.sqlStore operation failure none), changed)

def currentVersion (path : Path) (tree : Tree) : Except Fault Int × Tree :=
  withDatabase "current_version" path (fun database => (.ok database.withVersions.version, database.withVersions)) tree

/-- Brings the schema to a version. -/
def migrate (path : Path) (target : Int) (tree : Tree) : Except Fault Unit × Tree :=
  if target < 0 ∨ Migration.latestVersion < target then
    (.error (.sqlStore "apply_migration" (.invalidTarget target) none), tree)
  else withDatabase "apply_migration" path (Migration.apply target) tree

/-- The ledger in the database at a path. -/
def store (path : Path) : RunStore Tree where
  append _ record tree :=
    match withDatabase "append" path (append record) tree with
    | (.ok (), changed) => (.ok (), changed)
    | (.error fault, changed) => (.error (fault.ofRun record.runId), changed)
  get runId tree := withDatabase "get" path (query (find runId)) tree
  listRecent filter limit tree :=
    if limit = 0 then (.ok [], tree) else withDatabase "list_recent" path (query (recent filter limit)) tree

end SqlStore

end SingleFlight.Ledger
