import SingleFlight.Ledger.SqlFailure
import SingleFlight.Text.OsText

/-!
The tables of a ledger database. A table may be absent; the rows of a table are what its schema
admits, which is more than what the ledger itself puts there: a column takes values of other types
than its own, and text that is no UTF-8.
-/

namespace SingleFlight.Ledger

open Text

/-- A value in a column of text. Numbers are text there, but bytes stay bytes. -/
inductive TextCell where
  | text (spelled : OsText)
  | bytes (content : List Byte)
  deriving DecidableEq

namespace TextCell

instance : Coe String TextCell := ⟨fun text => .text text⟩

/-- The text in a cell, if it holds any and can be read. -/
def text? : TextCell → Option String
  | .text spelled => spelled.text?
  | .bytes _ => none

/-- The order of a column of text, in which bytes come last. -/
def isAtMost : TextCell → TextCell → Bool
  | .text first, .text second => first ≤ second
  | .text _, .bytes _ => true
  | .bytes _, .text _ => false
  | .bytes first, .bytes second => first ≤ second

end TextCell

/-- A value in a column of whole numbers. Text that spells one is a number there, and so is what is
written with a point but is whole; anything else stays as it is. -/
inductive NumberCell where
  | integer (value : Int)
  | real (value : Rat)
  | infinite (isPositive : Bool)
  | text (spelled : OsText)
  | bytes (content : List Byte)
  deriving DecidableEq

namespace NumberCell

/-- The place of a kind of value in the order of a column: numbers come before text, and bytes last. -/
def rank : NumberCell → Nat
  | .infinite false => 0
  | .integer _ | .real _ => 1
  | .infinite true => 2
  | .text _ => 3
  | .bytes _ => 4

def value : NumberCell → Rat
  | .integer value => value
  | .real value => value
  | _ => 0

def content : NumberCell → List Byte
  | .text spelled => spelled
  | .bytes content => content
  | _ => []

/-- The order of a column of whole numbers. -/
def isAtMost (first second : NumberCell) : Bool :=
  first.rank < second.rank || (first.rank = second.rank &&
    (first.value < second.value || (first.value = second.value && first.content ≤ second.content)))

end NumberCell

/-- A row of the table of runs. Its key may be null. -/
structure RunRow where
  runId : Option TextCell
  project : TextCell
  action : TextCell
  startedAt : TextCell
  finishedAt : TextCell
  status : TextCell
  exitCode : Option NumberCell
  duration : NumberCell
  errorSummary : Option TextCell
  deriving DecidableEq

/-- A row of the table of artifact paths. -/
structure PathRow where
  runId : TextCell
  position : NumberCell
  path : TextCell
  deriving DecidableEq

structure Database where
  versions : Option (List Int)
  runs : Option (List RunRow)
  paths : Option (List PathRow)
  hasActionIndex : Bool
  hasProjectIndex : Bool
  deriving DecidableEq

namespace Database

def empty : Database := ⟨none, none, none, false, false⟩

def noSuchTable (name : String) : SqlFailure := .engine ("no such table: " ++ name)

def duplicateKey (name : String) : SqlFailure := .engine ("UNIQUE constraint failed: " ++ name)

def brokenReference : SqlFailure := .engine "FOREIGN KEY constraint failed"

def runRows (database : Database) : List RunRow := database.runs.getD []

def pathRows (database : Database) : List PathRow := database.paths.getD []

def versionRows (database : Database) : List Int := database.versions.getD []

def hasRun (database : Database) (runId : TextCell) : Bool := database.runRows.any (·.runId = some runId)

/-- Adds a run under a key that no row has; a null key is never taken. -/
def insertRun (row : RunRow) (database : Database) : Except SqlFailure Database :=
  match database.runs with
  | none => .error (noSuchTable "run_records")
  | some rows =>
    if row.runId.any database.hasRun then .error (duplicateKey "run_records.run_id")
    else .ok { database with runs := some (rows ++ [row]) }

/-- Adds an artifact path of a run that the table of runs holds. -/
def insertPath (row : PathRow) (database : Database) : Except SqlFailure Database :=
  match database.paths with
  | none => .error (noSuchTable "run_artifact_paths")
  | some rows =>
    if rows.any (fun other => other.runId = row.runId && other.position = row.position) then
      .error (duplicateKey "run_artifact_paths.run_id, run_artifact_paths.position")
    else if !database.hasRun row.runId then .error brokenReference
    else .ok { database with paths := some (rows ++ [row]) }

def insertVersion (version : Int) (database : Database) : Except SqlFailure Database :=
  match database.versions with
  | none => .error (noSuchTable "opsgate_schema_migrations")
  | some versions =>
    if versions.contains version then .error (duplicateKey "opsgate_schema_migrations.version")
    else .ok { database with versions := some (versions ++ [version]) }

def deleteVersion (version : Int) (database : Database) : Except SqlFailure Database :=
  match database.versions with
  | none => .error (noSuchTable "opsgate_schema_migrations")
  | some versions => .ok { database with versions := some (versions.filter (· ≠ version)) }

/-- Creates the table of versions if it is absent. -/
def withVersions (database : Database) : Database := { database with versions := some database.versionRows }

/-- The greatest recorded version, or zero. -/
def version (database : Database) : Int :=
  match database.versionRows with
  | [] => 0
  | first :: rest => rest.foldl max first

end Database

end SingleFlight.Ledger
