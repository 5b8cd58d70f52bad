import SingleFlight.Proofs.Schema

/-!
Migrations and records over any history. A database that is empty at first is brought from version to version, and
the ledger in it is used in between. Main statement: the version is the one that was reached last, the schema is that
of the version, and the ledger holds what was appended since the version was last zero, with the paths of those
records that have not seen an earlier version than the latest. Paths are kept as text.
-/

namespace SingleFlight.Ledger

open Files

/-- A call on a ledger database: for a migration of its schema, or for the ledger in it. -/
inductive SchemaCall where
  | migrate (target : Int)
  | ledger (call : LedgerCall)

inductive SchemaAnswer where
  | migrated (answer : Except Fault Unit)
  | answered (answer : LedgerAnswer Fault)

/-- The calls that were served, each with its answer, the first one first. -/
abbrev SchemaHistory := List (SchemaCall × SchemaAnswer)

/-- A ledger whose schema has versions. -/
structure VersionedStore (σ : Type) where
  store : RunStore σ
  migrate : Int → σ → Except Fault Unit × σ

namespace VersionedStore

variable {σ : Type}

def serve (versioned : VersionedStore σ) (state : σ) : SchemaCall → SchemaAnswer × σ
  | .migrate target => (.migrated (versioned.migrate target state).1, (versioned.migrate target state).2)
  | .ledger call => (.answered (versioned.store.serve state call).1, (versioned.store.serve state call).2)

def serveAll (versioned : VersionedStore σ) (state : σ) : List SchemaCall → SchemaHistory × σ
  | [] => ([], state)
  | call :: rest =>
    ((call, (versioned.serve state call).1) :: (versioned.serveAll (versioned.serve state call).2 rest).1,
      (versioned.serveAll (versioned.serve state call).2 rest).2)

end VersionedStore

namespace SqlStore

variable {path : Path} {tree : Tree} {history : SchemaHistory} {event : SchemaCall × SchemaAnswer} {target version : Int}
  {log : List RunRecord} {database : Database} {record : RunRecord}

/-- The ledger in the database at a path. -/
def versioned (path : Path) : VersionedStore Tree := ⟨store path, migrate path⟩

/-- The ledger in tables that are at hand. -/
def versionedTables : VersionedStore Database :=
  ⟨tables, fun target database => named "apply_migration" none (Migration.apply target database)⟩

/-- The version that a migration has reached. -/
def reached? : SchemaCall × SchemaAnswer → Option Int
  | (.migrate target, .migrated (.ok ())) => some target
  | _ => none

/-- What an append has added: its record, with the paths as text. -/
def added? : SchemaCall × SchemaAnswer → Option RunRecord
  | (.ledger (.append _ record), .answered (.appended (.ok ()))) => some (asText record)
  | _ => none

/-- The version that was reached last, which is zero at first. -/
def versionAfter (history : SchemaHistory) : Int := (history.reverse.findSome? reached?).getD 0

/-- Whether a version below a bound has been reached. -/
def hasBeenBelow (bound : Int) (history : SchemaHistory) : Bool := history.any fun event => (reached? event).any (· < bound)

/-- What later events have left of a record: nothing if the version has been zero since, and no paths if it has been
below the latest. -/
def remainder (record : RunRecord) (later : SchemaHistory) : List RunRecord :=
  if hasBeenBelow 1 later then []
  else if hasBeenBelow Migration.latestVersion later then [bare record]
  else [record]

/-- What is left of the records that were added. -/
def survivors : SchemaHistory → List RunRecord
  | [] => []
  | event :: later => (added? event).toList.flatMap (remainder · later) ++ survivors later

theorem versionAfter_concat (history : SchemaHistory) (event : SchemaCall × SchemaAnswer) :
    versionAfter (history ++ [event]) = (reached? event).getD (versionAfter history) := by
  rw [versionAfter, List.reverse_append, List.reverse_singleton, List.singleton_append, List.findSome?_cons]
  cases reached? event <;> rfl

theorem hasBeenBelow_concat (bound : Int) (history : SchemaHistory) (event : SchemaCall × SchemaAnswer) :
    hasBeenBelow bound (history ++ [event]) = (hasBeenBelow bound history || (reached? event).any (· < bound)) := by
  simp [hasBeenBelow]

theorem added?_of_reached (reached : reached? event = some target) : added? event = none := by
  unfold reached? at reached
  split at reached
  next => rfl
  next => cases reached

/-- A version that is reached leaves of a record what it can keep. -/
theorem remainder_concat (reached : reached? event = some target) (record : RunRecord) (later : SchemaHistory) :
    remainder record (later ++ [event]) = kept target (remainder record later) := by
  unfold remainder
  rw [hasBeenBelow_concat, hasBeenBelow_concat, reached, Option.any_some, Option.any_some, kept]
  cases hasBeenBelow 1 later with
  | true => simp
  | false =>
    by_cases gone : target < 1
    · simp [gone]
    · have latest : Migration.latestVersion = 2 := rfl
      rw [latest, if_neg gone]
      cases hasBeenBelow 2 later with
      | true => by_cases early : target < 2 <;> simp [gone, early, bare]
      | false => by_cases early : target < 2 <;> simp [gone, early]

theorem remainder_of_not_reached (same : reached? event = none) (record : RunRecord) (later : SchemaHistory) :
    remainder record (later ++ [event]) = remainder record later := by
  simp [remainder, hasBeenBelow_concat, same]

theorem survivors_of_reached (reached : reached? event = some target) (history : SchemaHistory) :
    survivors (history ++ [event]) = kept target (survivors history) := by
  induction history with
  | nil =>
    simp [survivors, added?_of_reached reached, kept]
  | cons first rest ih =>
    rw [List.cons_append, survivors, survivors, kept_append, ih]
    congr 1
    cases added? first with
    | none => simp [kept]
    | some record =>
      simp only [Option.toList_some, List.flatMap_singleton]
      exact remainder_concat reached record rest

theorem survivors_of_not_reached (same : reached? event = none) (history : SchemaHistory) :
    survivors (history ++ [event]) = survivors history ++ (added? event).toList := by
  induction history with
  | nil =>
    cases added : added? event with
    | none => simp [survivors, added]
    | some record => simp [survivors, added, remainder, hasBeenBelow]
  | cons first rest ih =>
    rw [List.cons_append, survivors, survivors, ih, List.append_assoc]
    congr 2
    funext record
    exact remainder_of_not_reached same record rest

theorem KeptAt.migrates (kept : KeptAt path database tree) (target : Int) :
    (SqlStore.migrate path target tree).1 = (named "apply_migration" none (Migration.apply target database)).1 ∧
      KeptAt path (Migration.apply target database).2 (SqlStore.migrate path target tree).2 := by
  unfold SqlStore.migrate
  split
  next outside =>
    have refused : Migration.apply target database = (.error (.invalidTarget target), database) := if_pos outside
    rw [refused]
    exact ⟨rfl, kept⟩
  next =>
    obtain ⟨answers, stays⟩ := kept.use (Migration.apply target)
    rw [withDatabase_eq, answers]
    exact ⟨rfl, stays⟩

/-- A ledger at a path answers as its tables do. -/
theorem KeptAt.serveVersioned (kept : KeptAt path database tree) (call : SchemaCall) :
    ((versioned path).serve tree call).1 = (versionedTables.serve database call).1 ∧
      KeptAt path (versionedTables.serve database call).2 ((versioned path).serve tree call).2 := by
  cases call with
  | migrate target =>
    obtain ⟨answer, stays⟩ := kept.migrates target
    exact ⟨congrArg SchemaAnswer.migrated answer, stays⟩
  | ledger call =>
    obtain ⟨answer, stays⟩ := kept.serve call
    exact ⟨congrArg SchemaAnswer.answered answer, stays⟩

theorem KeptAt.serveAllVersioned (kept : KeptAt path database tree) (calls : List SchemaCall) :
    ((versioned path).serveAll tree calls).1 = (versionedTables.serveAll database calls).1 ∧
      KeptAt path (versionedTables.serveAll database calls).2 ((versioned path).serveAll tree calls).2 := by
  induction calls generalizing database tree with
  | nil => exact ⟨rfl, kept⟩
  | cons call rest ih =>
    obtain ⟨answer, stays⟩ := kept.serveVersioned call
    obtain ⟨restAnswers, last⟩ := ih stays
    refine ⟨?_, last⟩
    rw [VersionedStore.serveAll, VersionedStore.serveAll, answer, restAnswers]

theorem KeptAt.currentVersion (kept : KeptAt path database tree) :
    (SqlStore.currentVersion path tree).1 = .ok database.withVersions.version := by
  obtain ⟨answers, _⟩ := kept.use fun database => (.ok database.withVersions.version, database.withVersions)
  rw [SqlStore.currentVersion, withDatabase_eq, answers]
  rfl

theorem added?_of_failed {call : LedgerCall} {answer : LedgerAnswer Fault} (failed : answer.outlined = call.failed) :
    added? (.ledger call, .answered answer) = none := by
  unfold added?
  split
  next same =>
    cases same
    cases failed
  next => rfl

/-- Whatever is asked of the ledger, the database stands where it stood, and holds what was added besides. -/
theorem Stands.serve (stands : Stands version log database) (call : LedgerCall) :
    Stands version (log ++ (added? (.ledger call, .answered (tables.serve database call).1)).toList)
      (tables.serve database call).2 := by
  by_cases asks : call.asksTables = true
  · obtain early | latest := Int.lt_or_eq_of_le stands.high
    · obtain ⟨failed, after⟩ := stands.outdated early asks
      rw [added?_of_failed failed, after, Option.toList_none, List.append_nil, ← stands.opened]
      exact stands.withVersions
    · subst version
      have same := stands_ofLog stands.orderly
      cases call with
      | append nonce record =>
        by_cases fit : RunLog.holds record.runId log = false ∧ Keepable record
        · have longer := stands.orderly.append (storable_asText.mpr fit.2)
          rw [RunLog.append, if_neg (by simp [asText, fit.1])] at longer
          rw [stands.appended fit.2 fit.1]
          exact stands_ofLog longer
        · obtain ⟨failure, answer⟩ := stands.not_appended fit nonce
          rw [answer]
          simpa [added?] using same
      | get runId =>
        rw [stands.got]
        simpa [added?] using same
      | listRecent filter limit =>
        rw [stands.listed filter (by simpa [LedgerCall.asksTables] using asks)]
        simpa [added?] using same
  · cases call with
    | append | get => exact absurd rfl asks
    | listRecent filter limit =>
      have nothing : limit = 0 := by simpa [LedgerCall.asksTables] using asks
      subst nothing
      have answer : tables.serve database (.listRecent filter 0) = (.listed (.ok []), database) := rfl
      rw [answer]
      simpa [added?] using stands

/-- A call makes of the tables what its answer says. -/
theorem Stands.step (stands : Stands (versionAfter history) (survivors history) database) (call : SchemaCall) :
    Stands (versionAfter (history ++ [(call, (versionedTables.serve database call).1)]))
      (survivors (history ++ [(call, (versionedTables.serve database call).1)])) (versionedTables.serve database call).2 := by
  rw [versionAfter_concat]
  cases call with
  | ledger call =>
    rw [survivors_of_not_reached rfl]
    exact stands.serve call
  | migrate target =>
    simp only [VersionedStore.serve, versionedTables, named]
    by_cases outside : target < 0 ∨ Migration.latestVersion < target
    · have refused : Migration.apply target database = (.error (.invalidTarget target), database) := if_pos outside
      rw [refused, survivors_of_not_reached rfl]
      change Stands (versionAfter history) (survivors history ++ []) database
      rw [List.append_nil]
      exact stands
    · obtain ⟨low, high⟩ : 0 ≤ target ∧ target ≤ Migration.latestVersion := by omega
      have migrated := stands.migrated low high
      rw [stands.apply low high] at migrated ⊢
      rw [survivors_of_reached rfl]
      exact migrated

theorem Stands.run (stands : Stands (versionAfter history) (survivors history) database) (calls : List SchemaCall) :
    Stands (versionAfter (history ++ (versionedTables.serveAll database calls).1))
      (survivors (history ++ (versionedTables.serveAll database calls).1)) (versionedTables.serveAll database calls).2 := by
  induction calls generalizing history database with
  | nil => simpa [VersionedStore.serveAll] using stands
  | cons call rest ih =>
    have last := ih (stands.step call)
    rw [List.append_assoc, List.singleton_append] at last
    exact last

/-- Whether the tables of a database are still the same in a tree. -/
def AddsNothing (path : Path) (database : Database) (tree : Tree) : Prop :=
  ∃ after, KeptAt path after tree ∧ after.runRows = database.runRows ∧ after.pathRows = database.pathRows

/-- What is known of a ledger database, and of what it answers next, by its history. -/
structure KnownBy (path : Path) (history : SchemaHistory) (tree : Tree) (database : Database) : Prop where
  kept : KeptAt path database tree
  current : (currentVersion path tree).1 = .ok (versionAfter history)
  versions : database.versionRows = Migration.versionsBetween 0 (versionAfter history)
  parts : ∃ built, Migration.built (versionAfter history) = .ok built ∧ ∀ part, database.hasPart part = built.hasPart part
  /-- A target that is no version is refused, and changes nothing. -/
  refused : ∀ target, target < 0 ∨ Migration.latestVersion < target →
    migrate path target tree = (.error (.sqlStore "apply_migration" (.invalidTarget target) none), tree)
  /-- Every version is reached from here. -/
  reached : ∀ target, 0 ≤ target → target ≤ Migration.latestVersion →
    (migrate path target tree).1 = .ok () ∧ (currentVersion path (migrate path target tree).2).1 = .ok target
  /-- Before the latest version, the ledger fails. -/
  outdated : versionAfter history < Migration.latestVersion → ∀ call, call.asksTables = true →
    ((store path).serve tree call).1.outlined = call.failed ∧ AddsNothing path database ((store path).serve tree call).2
  /-- At the latest version, it takes every record that it can keep, of a run that is new to it. -/
  appended : versionAfter history = Migration.latestVersion → ∀ nonce record,
    RunLog.holds record.runId (survivors history) = false ∧ Keepable record →
    ((store path).append nonce record tree).1 = .ok ()
  /-- It fails on every other record. -/
  notAppended : versionAfter history = Migration.latestVersion → ∀ nonce record,
    ¬(RunLog.holds record.runId (survivors history) = false ∧ Keepable record) →
    ((store path).serve tree (.append nonce record)).1.outlined = (LedgerCall.append nonce record).failed ∧
      AddsNothing path database ((store path).serve tree (.append nonce record)).2
  found : versionAfter history = Migration.latestVersion → ∀ runId,
    ((store path).get runId tree).1 = .ok (RunLog.find? runId (survivors history))
  listed : versionAfter history = Migration.latestVersion → ∀ filter limit,
    ((store path).listRecent filter limit tree).1 = .ok (RunLog.recent filter limit (survivors history))
  rows : versionAfter history = Migration.latestVersion →
    database.runs = some ((survivors history).map runRow) ∧ database.paths = some ((survivors history).flatMap pathRows)

theorem addsNothing_of {after : Database} (kept : KeptAt path after tree) (stays : Stands version log after)
    (stands : Stands version log database) : AddsNothing path database tree :=
  ⟨after, kept, stays.runRows.trans stands.runRows.symm, stays.pathRows.trans stands.pathRows.symm⟩

/-- A database that is empty at first, and is migrated and used in any order, is known by its history. -/
theorem known_by_history (empty : KeptAt path .empty tree) (calls : List SchemaCall) :
    ∃ database, KnownBy path ((versioned path).serveAll tree calls).1 ((versioned path).serveAll tree calls).2 database := by
  obtain ⟨answers, kept⟩ := empty.serveAllVersioned calls
  have start : Stands (versionAfter []) (survivors []) .empty := stands_empty
  have stands := start.run calls
  rw [List.nil_append, ← answers] at stands
  generalize (versionedTables.serveAll .empty calls).2 = database at kept stands
  generalize (versioned path).serveAll tree calls = served at kept stands ⊢
  obtain ⟨history, last⟩ := served
  refine ⟨database, kept, ?_, stands.versionRows, stands.parts, fun _ outside => if_pos outside, ?_, ?_, ?_, ?_, ?_, ?_, ?_⟩
  · rw [kept.currentVersion, stands.version_eq]
  · intro target low high
    obtain ⟨answer, stays⟩ := kept.migrates target
    rw [answer, stays.currentVersion, (stands.migrated low high).version_eq, stands.apply low high]
    exact ⟨rfl, rfl⟩
  · intro early call asks
    obtain ⟨answer, stays⟩ := kept.serve call
    obtain ⟨failed, after⟩ := stands.outdated early asks
    have same : Stands (versionAfter history) (survivors history) (tables.serve database call).2 := by
      rw [after, ← stands.opened]
      exact stands.withVersions
    rw [answer]
    exact ⟨failed, addsNothing_of stays same stands⟩
  · intro latest nonce record fit
    rw [latest] at stands
    obtain ⟨answer, _⟩ := kept.serve (.append nonce record)
    rw [stands.appended fit.2 fit.1] at answer
    exact LedgerAnswer.appended.inj answer
  · intro latest nonce record unfit
    rw [latest] at stands
    obtain ⟨answer, stays⟩ := kept.serve (.append nonce record)
    obtain ⟨failure, refused⟩ := stands.not_appended unfit nonce
    rw [refused] at answer stays
    rw [answer]
    exact ⟨rfl, addsNothing_of stays (stands_ofLog stands.orderly) stands⟩
  · intro latest runId
    rw [latest] at stands
    obtain ⟨answer, _⟩ := kept.serve (.get runId)
    rw [stands.got] at answer
    exact LedgerAnswer.got.inj answer
  · intro latest filter limit
    rw [latest] at stands
    obtain ⟨answer, _⟩ := kept.serve (.listRecent filter limit)
    by_cases nothing : limit = 0
    · subst nothing
      exact LedgerAnswer.listed.inj answer
    · rw [stands.listed filter nothing] at answer
      exact LedgerAnswer.listed.inj answer
  · intro latest
    rw [latest] at stands
    exact ⟨congrArg Database.runs stands.opened, congrArg Database.paths stands.opened⟩

/-- A record that has seen the version without a table of paths has none when it is read again. -/
theorem known_by_history_rebuilt :
    let calls : List SchemaCall := [.migrate 2, .ledger (.append 1 sample), .migrate 1, .ledger (.get sample.runId), .migrate 2]
    KeptAt (.ofText "runs.db") .empty Tree.empty ∧
    ((store (.ofText "runs.db")).get sample.runId ((versioned (.ofText "runs.db")).serveAll
      Tree.empty calls).2).1 = .ok (some (bare sample)) := by
  intro calls
  refine ⟨keptAt_work, ?_⟩
  obtain ⟨database, known⟩ := known_by_history keptAt_work calls
  have found := known.found
  rw [(keptAt_work.serveAllVersioned calls).1] at found
  have version : versionAfter (versionedTables.serveAll .empty calls).1 = 2 := by decide
  have left : survivors (versionedTables.serveAll .empty calls).1 = [bare sample] := by decide
  rw [found version, left]
  rfl

/-- A path that is not UTF-8 is not read back as it was appended, though the database has always been at the latest
version; and a database that lasts only as long as it is in use has no version that was reached. -/
theorem history_forgotten :
    let calls : List SchemaCall := [.migrate 2, .ledger (.append 1 mangled)]
    let memory : Path := .ofText ":memory:"
    KeptAt (.ofText "runs.db") .empty Tree.empty ∧ asText mangled ≠ mangled ∧
    ((store (.ofText "runs.db")).get mangled.runId ((versioned (.ofText "runs.db")).serveAll
      Tree.empty calls).2).1 =
      .ok (some (asText mangled)) ∧
    (migrate memory 2 Tree.empty).1 = .ok () ∧
    (currentVersion memory (migrate memory 2 Tree.empty).2).1 = .ok 0 := by
  intro calls memory
  refine ⟨keptAt_work, asText_mangled, ?_, rfl, rfl⟩
  obtain ⟨_, kept⟩ := keptAt_work.serveAllVersioned calls
  have started : Stands (versionAfter []) (survivors []) .empty := stands_empty
  have stands : Stands 2 [asText mangled] (versionedTables.serveAll .empty calls).2 := started.run calls
  have got := stands.got mangled.runId
  rw [kept.get]
  exact LedgerAnswer.got.inj (congrArg Prod.fst got)

end SqlStore

end SingleFlight.Ledger
