import Mathlib.Tactic.IntervalCases
import SingleFlight.Proofs.Agreement

/-!
The schema of a ledger database. At each version it has the tables and indexes that the migrations up to that
version make, and they hold what the version can keep of a log. Main statements: a migration leads from any version
to any other, and what the ledger answers at each of them.
-/

namespace SingleFlight.Ledger

/-- The tables and indexes that migrations make. -/
inductive SchemaPart where
  | runs
  | actionIndex
  | paths
  | projectIndex

def Database.hasPart (database : Database) : SchemaPart → Bool
  | .runs => database.runs.isSome
  | .actionIndex => database.hasActionIndex
  | .paths => database.paths.isSome
  | .projectIndex => database.hasProjectIndex

namespace Migration

variable {low high : Int}

/-- What the statements upwards make out of nothing, up to a version. -/
def built (version : Int) : Except SqlFailure Database :=
  Statement.executeAll ((all.filter (·.version ≤ version)).flatMap (·.up)) .empty

theorem versionsBetween_self (version : Int) : versionsBetween version version = [] := by
  simp [versionsBetween]

theorem versionsBetween_cons (less : low < high) : versionsBetween low high = (low + 1) :: versionsBetween (low + 1) high := by
  have count : (high - low).toNat = (high - (low + 1)).toNat + 1 := by omega
  rw [versionsBetween, count, List.range_succ_eq_map, List.map_cons, List.map_map, versionsBetween]
  congr 1
  · simp
  · apply List.map_congr_left
    intro index _
    simp only [Function.comp_apply, Nat.succ_eq_add_one]
    omega

theorem versionsBetween_concat (less : low < high) : versionsBetween low high = versionsBetween low (high - 1) ++ [high] := by
  have count : (high - low).toNat = (high - 1 - low).toNat + 1 := by omega
  rw [versionsBetween, count, List.range_succ, List.map_append, versionsBetween]
  congr 1
  simp only [List.map_cons, List.map_nil, List.cons.injEq, and_true]
  omega

end Migration

namespace SqlStore

variable {version target : Int} {log : List RunRecord} {database : Database} {record : RunRecord}

/-- What a version can keep of a log: nothing before there is a table of runs, and no paths before there is one of
paths. -/
def kept (version : Int) (log : List RunRecord) : List RunRecord :=
  if version < 1 then [] else if version < 2 then log.map bare else log

/-- The database of a version that holds a log. -/
def atVersion (version : Int) (log : List RunRecord) : Database where
  versions := some (Migration.versionsBetween 0 version)
  runs := if 1 ≤ version then some (log.map runRow) else none
  paths := if 2 ≤ version then some (log.flatMap pathRows) else none
  hasActionIndex := 1 ≤ version
  hasProjectIndex := 2 ≤ version

theorem atVersion_latest (log : List RunRecord) : atVersion Migration.latestVersion log = ofLog log := rfl

theorem kept_kept (log : List RunRecord) (atMost : target ≤ version) : kept target (kept version log) = kept target log := by
  have bared : (log.map bare).map bare = log.map bare := by rw [List.map_map]; rfl
  unfold kept
  split
  next => rfl
  next =>
    split
    next =>
      rw [if_neg (by omega)]
      split
      next => exact bared
      next => rfl
    next => rw [if_neg (by omega), if_neg (by omega)]

/-- What a version has kept, a later one can keep. -/
theorem kept_of_le (fits : kept version log = log) (atMost : version ≤ target) : kept target log = log := by
  unfold kept at fits ⊢
  split at fits
  next =>
    subst log
    simp
  next =>
    rw [if_neg (by omega)]
    split at fits
    next =>
      split
      next => exact fits
      next => rfl
    next => rw [if_neg (by omega)]

theorem kept_append (version : Int) (first second : List RunRecord) :
    kept version (first ++ second) = kept version first ++ kept version second := by
  unfold kept
  split
  next => rfl
  next =>
    split
    next => exact List.map_append
    next => rfl

theorem flatMap_pathRows_bare (log : List RunRecord) : (log.map bare).flatMap pathRows = [] := by
  rw [List.flatMap_eq_nil_iff]
  intro record found
  obtain ⟨_, _, rfl⟩ := List.mem_map.mp found
  rfl

theorem map_runRow_bare (log : List RunRecord) : (log.map bare).map runRow = log.map runRow := by
  rw [List.map_map]
  rfl

theorem version_atVersion (low : 0 ≤ version) (high : version ≤ Migration.latestVersion) (log : List RunRecord) :
    (atVersion version log).version = version := by
  unfold Migration.latestVersion at high
  interval_cases version <;> rfl

theorem raise_atVersion (low : 0 ≤ version) (high : version < Migration.latestVersion) (fits : kept version log = log) :
    Migration.raise (atVersion version log) (version + 1) = .ok (atVersion (version + 1) log) := by
  unfold Migration.latestVersion at high
  interval_cases version
  · obtain rfl : log = [] := fits.symm
    rfl
  · have made : Migration.raise (atVersion 1 log) 2 = .ok { atVersion 2 log with paths := some [] } := rfl
    have noPaths : log.flatMap pathRows = [] := fits ▸ flatMap_pathRows_bare log
    rw [← noPaths] at made
    exact made

theorem lower_atVersion (low : 0 < version) (high : version ≤ Migration.latestVersion) (log : List RunRecord) :
    Migration.lower (atVersion version log) version = .ok (atVersion (version - 1) (kept (version - 1) log)) := by
  unfold Migration.latestVersion at high
  interval_cases version
  · rfl
  · have dropped : Migration.lower (atVersion 2 log) 2 = .ok { atVersion 1 log with runs := some (log.map runRow) } := rfl
    rw [dropped, ← map_runRow_bare log]
    rfl

/-- Steps upwards keep the log. -/
theorem runSteps_raise (low : 0 ≤ version) (atMost : version ≤ target) (high : target ≤ Migration.latestVersion)
    (fits : kept version log = log) :
    Migration.runSteps Migration.raise (Migration.versionsBetween version target) (atVersion version log) =
      (.ok (), atVersion target log) := by
  induction steps : (target - version).toNat generalizing version with
  | zero =>
    obtain rfl : version = target := by omega
    rw [Migration.versionsBetween_self]
    rfl
  | succ steps ih =>
    rw [Migration.versionsBetween_cons (by omega), Migration.runSteps, raise_atVersion low (by omega) fits]
    exact ih (by omega) (by omega) (kept_of_le fits (by omega)) (by omega)

/-- Steps downwards keep what each version can keep. -/
theorem runSteps_lower (low : 0 ≤ target) (atMost : target ≤ version) (high : version ≤ Migration.latestVersion)
    (fits : kept version log = log) :
    Migration.runSteps Migration.lower (Migration.versionsBetween target version).reverse (atVersion version log) =
      (.ok (), atVersion target (kept target log)) := by
  induction steps : (version - target).toNat generalizing version log with
  | zero =>
    obtain rfl : version = target := by omega
    rw [Migration.versionsBetween_self, fits]
    rfl
  | succ steps ih =>
    rw [Migration.versionsBetween_concat (by omega), List.reverse_append, List.reverse_singleton, List.singleton_append,
      Migration.runSteps, lower_atVersion (by omega) high]
    refine (ih (by omega) (by omega) (kept_kept log (Int.le_refl _)) (by omega)).trans ?_
    rw [kept_kept log (by omega)]

/-- Whether a database stands at a version and holds a log that the version can keep. -/
structure Stands (version : Int) (log : List RunRecord) (database : Database) : Prop where
  opened : database.withVersions = atVersion version log
  low : 0 ≤ version
  high : version ≤ Migration.latestVersion
  fits : kept version log = log
  orderly : RunLog.Orderly Storable log

theorem stands_empty : Stands 0 [] .empty := ⟨rfl, by decide, by decide, rfl, RunLog.orderly_nil⟩

theorem stands_ofLog (orderly : RunLog.Orderly Storable log) : Stands Migration.latestVersion log (ofLog log) :=
  ⟨rfl, by decide, by decide, rfl, orderly⟩

theorem Stands.version_eq (stands : Stands version log database) : database.withVersions.version = version := by
  rw [stands.opened, version_atVersion stands.low stands.high]

theorem Stands.versionRows (stands : Stands version log database) :
    database.versionRows = Migration.versionsBetween 0 version := by
  have opened : database.withVersions.versionRows = (atVersion version log).versionRows := congrArg _ stands.opened
  exact opened

theorem Stands.runRows (stands : Stands version log database) : database.runRows = (atVersion version log).runRows := by
  have opened : database.withVersions.runRows = (atVersion version log).runRows := congrArg _ stands.opened
  exact opened

theorem Stands.pathRows (stands : Stands version log database) : database.pathRows = (atVersion version log).pathRows := by
  have opened : database.withVersions.pathRows = (atVersion version log).pathRows := congrArg _ stands.opened
  exact opened

/-- The schema is the one that the migrations up to the version build. -/
theorem Stands.parts (stands : Stands version log database) :
    ∃ built, Migration.built version = .ok built ∧ ∀ part, database.hasPart part = built.hasPart part := by
  have opened (part : SchemaPart) : database.hasPart part = (atVersion version log).hasPart part := by
    rw [← stands.opened]
    cases part <;> rfl
  simp only [opened]
  have low := stands.low
  have high := stands.high
  unfold Migration.latestVersion at high
  clear opened stands
  interval_cases version
  all_goals
    refine ⟨_, rfl, ?_⟩
    intro part
    cases part <;> rfl

theorem Stands.withVersions (stands : Stands version log database) : Stands version log database.withVersions :=
  ⟨stands.opened, stands.low, stands.high, stands.fits, stands.orderly⟩

theorem orderly_kept (orderly : RunLog.Orderly Storable log) (version : Int) : RunLog.Orderly Storable (kept version log) := by
  unfold kept
  split
  next => exact RunLog.orderly_nil
  next =>
    split
    next =>
      refine ⟨?_, ?_⟩
      · intro record found
        obtain ⟨whole, wholeIn, rfl⟩ := List.mem_map.mp found
        exact (orderly.all whole wholeIn).bare
      · rw [List.map_map]
        exact orderly.distinct
    next => exact orderly

/-- A migration leads from any version to any other. -/
theorem Stands.apply (stands : Stands version log database) (low : 0 ≤ target) (high : target ≤ Migration.latestVersion) :
    Migration.apply target database = (.ok (), atVersion target (kept target log)) := by
  unfold Migration.apply
  rw [if_neg (by omega)]
  dsimp only
  rw [stands.version_eq, stands.opened]
  split
  next above =>
    rw [kept_of_le stands.fits (by omega)]
    exact runSteps_raise stands.low (by omega) high stands.fits
  next below =>
    rw [if_neg (Int.not_lt.mpr stands.high)]
    exact runSteps_lower low (by omega) stands.high stands.fits

theorem Stands.migrated (stands : Stands version log database) (low : 0 ≤ target) (high : target ≤ Migration.latestVersion) :
    Stands target (kept target log) (Migration.apply target database).2 := by
  rw [stands.apply low high]
  exact ⟨rfl, low, high, kept_kept log (Int.le_refl _), orderly_kept stands.orderly target⟩

end SqlStore

namespace LedgerCall

/-- Whether an answer takes a look at the tables: an empty listing does not. -/
def asksTables : LedgerCall → Bool
  | listRecent _ limit => limit ≠ 0
  | _ => true

/-- The answer to a call that the storage has failed. -/
def failed : LedgerCall → LedgerAnswer (FaultKind × Option RunId)
  | append _ record => .appended (.error (.storageFailure, some record.runId))
  | get _ => .got (.error (.storageFailure, none))
  | listRecent _ _ => .listed (.error (.storageFailure, none))

end LedgerCall

namespace SqlStore

variable {version : Int} {log : List RunRecord} {database : Database} {record : RunRecord}

theorem Stands.ready (stands : Stands version log database) : SqlStore.ready database =
    (if version < Migration.latestVersion then .error .schemaOutdated else .ok (), atVersion version log) := by
  unfold SqlStore.ready
  dsimp only
  rw [stands.version_eq, stands.opened]
  split <;> rfl

/-- Before the latest version, the ledger fails and adds nothing. -/
theorem Stands.outdated (stands : Stands version log database) (early : version < Migration.latestVersion) {call : LedgerCall}
    (asks : call.asksTables = true) :
    (tables.serve database call).1.outlined = call.failed ∧ (tables.serve database call).2 = atVersion version log := by
  have refused : SqlStore.ready database = (.error .schemaOutdated, atVersion version log) := by
    rw [stands.ready, if_pos early]
  cases call with
  | append nonce record =>
    have answer : append record database = (.error .schemaOutdated, atVersion version log) := by rw [append, refused]
    rw [serve_append answer]
    exact ⟨rfl, rfl⟩
  | get runId =>
    have answer : query (find runId) database = (.error .schemaOutdated, atVersion version log) := by rw [query, refused]
    rw [serve_get answer]
    exact ⟨rfl, rfl⟩
  | listRecent filter limit =>
    have answer : query (recent filter limit) database = (.error .schemaOutdated, atVersion version log) := by rw [query, refused]
    have some : limit ≠ 0 := by simpa [LedgerCall.asksTables] using asks
    rw [serve_listRecent some answer]
    exact ⟨rfl, rfl⟩

section Latest

variable (stands : Stands Migration.latestVersion log database)

include stands

theorem Stands.query_latest {α : Type} (read : Database → Except SqlFailure α) :
    query read database = (read (ofLog log), ofLog log) := by
  rw [query, stands.ready, if_neg (by decide), atVersion_latest]

theorem Stands.append_latest (record : RunRecord) : append record database = append record (ofLog log) := by
  have opened : SqlStore.ready database = (.ok (), ofLog log) := by
    rw [stands.ready, if_neg (by decide), atVersion_latest]
  rw [append, append, opened, ready_ofLog]

/-- The latest version takes a record that it can keep, unless it holds one of the same run. -/
theorem Stands.appended (keepable : Keepable record) (new : RunLog.holds record.runId log = false)
    (nonce : UInt32) :
    tables.serve database (.append nonce record) = (.appended (.ok ()), ofLog (log ++ [asText record])) :=
  serve_append ((stands.append_latest record).trans (append_new_ofLog keepable new)) nonce

/-- It takes no other record. -/
theorem Stands.not_appended (refused : ¬(RunLog.holds record.runId log = false ∧ Keepable record))
    (nonce : UInt32) :
    ∃ failure, tables.serve database (.append nonce record) =
      (.appended (.error (.sqlStore "append" failure (some record.runId))), ofLog log) := by
  have answer : ∃ failure, append record database = (.error failure, ofLog log) := by
    by_cases keepable : Keepable record
    · have known : RunLog.holds record.runId log = true := by simpa [keepable] using refused
      have again := append_ofLog log keepable
      rw [if_pos known] at again
      exact ⟨_, (stands.append_latest record).trans again⟩
    · obtain ⟨failure, unfit⟩ := insertRecord_of_not_keepable keepable (ofLog log)
      refine ⟨failure, (stands.append_latest record).trans ?_⟩
      rw [append, ready_ofLog]
      dsimp only
      rw [unfit]
  obtain ⟨failure, answer⟩ := answer
  exact ⟨failure, serve_append answer nonce⟩

theorem Stands.got (runId : RunId) :
    tables.serve database (.get runId) = (.got (.ok (RunLog.find? runId log)), ofLog log) := by
  have answer : query (find runId) database = (.ok (RunLog.find? runId log), ofLog log) := by
    rw [stands.query_latest, find_ofLog stands.orderly.all stands.orderly.distinct]
  exact serve_get answer

theorem Stands.listed (filter : RunFilter) {limit : Nat} (some : limit ≠ 0) :
    tables.serve database (.listRecent filter limit) = (.listed (.ok (RunLog.recent filter limit log)), ofLog log) := by
  have answer : query (recent filter limit) database = (.ok (RunLog.recent filter limit log), ofLog log) := by
    rw [stands.query_latest, recent_ofLog stands.orderly.all stands.orderly.distinct]
  exact serve_listRecent some answer

end Latest

end SqlStore

end SingleFlight.Ledger
