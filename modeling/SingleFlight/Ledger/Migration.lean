import SingleFlight.Ledger.Database

/-!
Migrations: the steps by which the schema of a ledger database is built up and taken down. Each step
runs in a transaction, together with the note that it was taken.
-/

namespace SingleFlight.Ledger

/-- A statement of a migration. Creating what exists and dropping what does not changes nothing. -/
inductive Statement where
  | createRuns
  | createActionIndex
  | createPaths
  | createProjectIndex
  | dropActionIndex
  | dropRuns
  | dropProjectIndex
  | dropPaths
  deriving DecidableEq

namespace Statement

def execute (database : Database) : Statement → Except SqlFailure Database
  | createRuns => .ok { database with runs := some database.runRows }
  | createActionIndex =>
    if database.runs.isSome then .ok { database with hasActionIndex := true }
    else .error (Database.noSuchTable "main.run_records")
  | createPaths => .ok { database with paths := some database.pathRows }
  | createProjectIndex =>
    if database.runs.isSome then .ok { database with hasProjectIndex := true }
    else .error (Database.noSuchTable "main.run_records")
  | dropActionIndex => .ok { database with hasActionIndex := false }
  | dropRuns =>
    if database.runs.isSome && !database.pathRows.isEmpty then .error Database.brokenReference
    else .ok { database with runs := none, hasActionIndex := false, hasProjectIndex := false }
  | dropProjectIndex => .ok { database with hasProjectIndex := false }
  | dropPaths => .ok { database with paths := none }

def executeAll (statements : List Statement) (database : Database) : Except SqlFailure Database :=
  statements.foldlM execute database

end Statement

structure Migration where
  version : Int
  name : String
  up : List Statement
  down : List Statement
  deriving DecidableEq

namespace Migration

def all : List Migration :=
  [⟨1, "initial_run_ledger", [.createRuns, .createActionIndex], [.dropActionIndex, .dropRuns]⟩,
    ⟨2, "add_run_artifact_paths", [.createPaths, .createProjectIndex], [.dropProjectIndex, .dropPaths]⟩]

def find? (version : Int) : Option Migration := all.find? (·.version = version)

def latestVersion : Int := 2

/-- The migrations that are still to be taken from a version. -/
def plannedFrom (version : Int) : List Migration := all.filter (fun migration => version < migration.version)

def raise (database : Database) (version : Int) : Except SqlFailure Database :=
  match find? version with
  | none => .error (.undefinedMigration version)
  | some migration => Statement.executeAll migration.up database >>= Database.insertVersion version

def lower (database : Database) (version : Int) : Except SqlFailure Database :=
  match find? version with
  | none => .error (.undefinedMigration version)
  | some migration => Statement.executeAll migration.down database >>= Database.deleteVersion version

/-- Takes steps one after the other; a step that fails changes nothing and ends the run, and the steps
before it stay. -/
def runSteps (step : Database → Int → Except SqlFailure Database) :
    List Int → Database → Except SqlFailure Unit × Database
  | [], database => (.ok (), database)
  | version :: rest, database =>
    match step database version with
    | .ok changed => runSteps step rest changed
    | .error failure => (.error failure, database)

/-- The versions above one bound up to another, rising. -/
def versionsBetween (low high : Int) : List Int :=
  (List.range (high - low).toNat).map (fun (index : Nat) => low + 1 + index)

/-- Brings a database to a version, which must be one between zero and the latest. -/
def apply (target : Int) (database : Database) : Except SqlFailure Unit × Database :=
  if target < 0 ∨ latestVersion < target then (.error (.invalidTarget target), database)
  else
    let opened := database.withVersions
    if opened.version < target then runSteps raise (versionsBetween opened.version target) opened
    else if latestVersion < opened.version then (.error (.undefinedMigration opened.version), opened)
    else runSteps lower (versionsBetween target opened.version).reverse opened

end Migration

end SingleFlight.Ledger
