import SingleFlight.Proofs.Agreement
import SingleFlight.Proofs.Landing

/-!
What becomes of the record of a run. Once the gateway has answered, a ledger of files takes any record that can
be written down at all. A ledger of tables takes it only if the duration that the gateway claims is a number that
a column holds; if it is not, the record is lost, and the caller is not told.
-/

namespace SingleFlight

open Files Files.Tree Gateway Ledger Time

namespace Ledger

/-- What is read under the text of a run id is what the store holds of the run, and nothing if the store fails. -/
theorem RunStore.read_text {σ : Type} (store : RunStore σ) (runId : RunId) (state : σ) :
    (store.read runId.text state).1 = match (store.get runId state).1 with
      | .ok found => found
      | .error _ => none := by
  have spelled : RunId.ofText? runId.text = some runId := dif_pos runId.valid
  unfold RunStore.read
  rw [spelled]
  dsimp only
  cases store.get runId state with
  | mk answer after => cases answer <;> rfl

namespace SqlStore

variable {path : Path} {tree : Tree} {database : Database} {record : RunRecord} {log : List RunRecord}

/-- Whether a database is as the migrations leave it: both tables are there, and all paths are those of runs. -/
structure Migrated (database : Database) : Prop where
  current : Migration.latestVersion ≤ database.version
  runs : database.runs.isSome = true
  paths : database.paths.isSome = true
  owned : ∀ row ∈ database.pathRows, database.hasRun row.runId = true

theorem hasRun_ofLog (recordIn : record ∈ log) : (ofLog log).hasRun record.runId.text = true := by
  rw [Database.hasRun, List.any_eq_true]
  exact ⟨runRow record, List.mem_map.mpr ⟨record, recordIn, rfl⟩, by simp [runRow]⟩

theorem migrated_ofLog (log : List RunRecord) : Migrated (ofLog log) where
  current := show Migration.latestVersion ≤ (ofLog []).version by decide
  runs := rfl
  paths := rfl
  owned := by
    intro row found
    obtain ⟨record, recordIn, rowIn⟩ := List.mem_flatMap.mp found
    obtain ⟨_, _, rfl⟩ := List.mem_map.mp rowIn
    exact hasRun_ofLog recordIn

theorem Migrated.ready (migrated : Migrated database) : SqlStore.ready database = (.ok (), database.withVersions) :=
  if_neg (Int.not_lt.mpr migrated.current)

/-- What comes of an append leaves the tables as the migrations do. -/
theorem Migrated.outcome {answer : Except SqlFailure Unit} {after : Database} (migrated : Migrated database)
    (outcome : Outcome record database (answer, after)) : Migrated after := by
  cases outcome with
  | refused failure => exact ⟨migrated.current, migrated.runs, migrated.paths, migrated.owned⟩
  | added absent =>
    refine ⟨migrated.current, rfl, rfl, ?_⟩
    intro row found
    rw [Database.hasRun, List.any_eq_true]
    rcases List.mem_append.mp found with before | own
    · have known := migrated.owned row before
      rw [Database.hasRun, List.any_eq_true] at known
      obtain ⟨other, otherIn, same⟩ := known
      exact ⟨other, List.mem_append_left _ otherIn, same⟩
    · obtain ⟨position, _, rfl⟩ := List.mem_mapIdx.mp own
      exact ⟨runRow record, List.mem_append_right _ (List.mem_singleton.mpr rfl), by simp [runRow]⟩

/-- The tables stay as the migrations leave them, whatever is asked of the ledger. -/
theorem Migrated.serve (migrated : Migrated database) (call : LedgerCall) : Migrated (tables.serve database call).2 := by
  have opened : Migrated database.withVersions := ⟨migrated.current, migrated.runs, migrated.paths, migrated.owned⟩
  cases call with
  | append nonce record => exact migrated.outcome (append_outcome record database)
  | get runId =>
    change Migrated (query (find runId) database).2
    rw [query_eq]
    exact opened
  | listRecent filter limit =>
    rw [RunStore.serve, tables]
    dsimp only
    split
    next => exact migrated
    next =>
      change Migrated (query (recent filter limit) database).2
      rw [query_eq]
      exact opened

theorem Migrated.serveAll (migrated : Migrated database) (calls : List LedgerCall) :
    Migrated (tables.serveAll database calls).2 := by
  apply RunStore.serveAll_keeps Migrated _ (RunStore.throughout_of_forall fun _ _ => trivial) migrated
  intro call state _ held
  exact held.serve call

theorem Migrated.get (migrated : Migrated database) (runId : RunId) :
    (tables.get runId database).1 = (find runId database.withVersions).mapError fun failure => .sqlStore "get" failure none := by
  have asked : (tables.get runId database).1 =
      (query (find runId) database).1.mapError fun failure => .sqlStore "get" failure none := rfl
  rw [asked, query, migrated.ready]

/-- The paths of a run that is not there are not there either. -/
theorem Migrated.unclaimed (migrated : Migrated database) {runId : RunId} (absent : database.hasRun runId.text = false) :
    ∀ row ∈ database.pathRows, row.runId ≠ runId.text := by
  intro row found same
  have known := migrated.owned row found
  rw [same, absent] at known
  cases known

theorem find_of_absent (database : Database) {runId : RunId} (there : database.runs.isSome = true)
    (absent : database.hasRun runId.text = false) :
    find runId database = .ok none := by
  obtain ⟨rows, runs⟩ := Option.isSome_iff_exists.mp there
  have nothing : rows.find? (·.runId = some ↑runId.text) = none := by
    rw [List.find?_eq_none]
    intro row found
    have different := hasRun_eq_false.mp absent row (by simpa [Database.runRows, runs] using found)
    simpa using different
  simp [find, runRows, runs, nothing, bind, Except.bind, pure, Except.pure]

/-- A record that was put in as the only one of its run is found again. -/
theorem find_appended (database : Database) (storable : Storable record) (absent : database.hasRun record.runId.text = false)
    (unclaimed : ∀ row ∈ database.pathRows, row.runId ≠ record.runId.text) :
    find record.runId { database with
      runs := some (database.runRows ++ [runRow record]), paths := some (database.pathRows ++ pathRows record) } =
        .ok (some record) := by
  rw [find_iff]
  refine ⟨_, runRow record, bare record, record.artifactPaths, rfl, ?_, decode_runRow storable, ?_, rfl⟩
  · have nothing : database.runRows.find? (·.runId = some ↑record.runId.text) = none := by
      rw [List.find?_eq_none]
      intro row found
      simpa using hasRun_eq_false.mp absent row found
    rw [List.find?_append, nothing, Option.none_or, List.find?_cons_of_pos (by simp [runRow])]
  · have none : database.pathRows.filter (·.runId = (record.runId.text : TextCell)) = [] := by
      rw [List.filter_eq_nil_iff]
      intro row found
      simpa using unclaimed row found
    have all : (pathRows record).filter (·.runId = (record.runId.text : TextCell)) = pathRows record := by
      rw [List.filter_eq_self]
      intro row found
      obtain ⟨_, _, rfl⟩ := List.mem_map.mp found
      simp
    have own : (database.pathRows ++ pathRows record).filter
        (·.runId = (record.runId.text : TextCell)) = pathRows record := by
      rw [List.filter_append, none, all, List.nil_append]
    have loaded : loadPaths { database with
        runs := some (database.runRows ++ [runRow record]), paths := some (database.pathRows ++ pathRows record) } record.runId =
        (((database.pathRows ++ pathRows record).filter (·.runId = (record.runId.text : TextCell))).mergeSort
          (fun first second => NumberCell.isAtMost first.position second.position)).mapM decodePath := rfl
    refine loaded.trans ?_
    rw [own, List.mergeSort_of_pairwise (sorted_pathRows record), mapM_decodePath, storable.asText_eq]

/-- Tables take a storable record of a run that is new to them, and it is read back. -/
theorem Migrated.append_storable (migrated : Migrated database) (absent : database.hasRun record.runId.text = false)
    (storable : Storable record) : (append record database).1 = .ok () ∧
      (tables.get record.runId (append record database).2).1 = .ok (some record) := by
  have unclaimed := migrated.unclaimed absent
  have inserted : insertRecord record database.withVersions = .ok { database.withVersions with
      runs := some (database.runRows ++ [runRow record]),
      paths := some (database.pathRows ++ pathRows record) } := by
    obtain ⟨rows, runs⟩ := Option.isSome_iff_exists.mp migrated.runs
    obtain ⟨held, paths⟩ := Option.isSome_iff_exists.mp migrated.paths
    have runsHeld : database.runRows = rows := by rw [Database.runRows, runs, Option.getD_some]
    have pathsHeld : database.pathRows = held := by rw [Database.pathRows, paths, Option.getD_some]
    rw [runsHeld, pathsHeld]
    exact insertRecord_of storable.keepable.timed storable.2 runs paths absent (pathsHeld ▸ unclaimed)
  have appended : append record database = (.ok (), { database.withVersions with
      runs := some (database.runRows ++ [runRow record]),
      paths := some (database.pathRows ++ pathRows record) }) := by
    rw [append, migrated.ready]
    dsimp only
    rw [inserted]
  have after := migrated.outcome (appended ▸ append_outcome record database)
  have found := find_appended database.withVersions storable absent unclaimed
  rw [appended, after.get]
  exact ⟨rfl, congrArg (Except.mapError _) found⟩

/-- Tables take the record of a run that is new to them exactly if they can keep it, and what they keep is read
back. -/
theorem Migrated.append_new (migrated : Migrated database) (absent : database.hasRun record.runId.text = false) :
    ((append record database).1 = .ok () ↔ Keepable record) ∧
      (tables.get record.runId (append record database).2).1 =
        .ok (if Keepable record then some (asText record) else none) := by
  by_cases keepable : Keepable record
  · have absentAsText : database.hasRun (asText record).runId.text = false := absent
    obtain ⟨accepted, got⟩ := migrated.append_storable absentAsText (storable_asText.mpr keepable)
    rw [append_asText] at accepted got
    rw [if_pos keepable]
    exact ⟨⟨fun _ => keepable, fun _ => accepted⟩, got⟩
  · obtain ⟨failure, refused⟩ := insertRecord_of_not_keepable keepable database.withVersions
    have appended : append record database = (.error failure, database.withVersions) := by
      rw [append, migrated.ready]
      dsimp only
      rw [refused]
    have after := migrated.outcome (appended ▸ append_outcome record database)
    have nothing := find_of_absent database.withVersions migrated.runs absent
    rw [appended, after.get, if_neg keepable]
    refine ⟨⟨fun never => (by cases never), fun is => absurd is keepable⟩, ?_⟩
    exact congrArg (Except.mapError _) nothing

end SqlStore

end Ledger

namespace Coordinator

open Ledger

/-- What becomes of the record of a run that the gateway has answered, whatever the answer, when the run is new
to the ledger. In files it is kept exactly if it can be written down. In tables it is kept exactly if its times
can be written down and the duration that the gateway claims is at most the greatest number of a column. What is
kept is read back under the text of its id, as it is; of what is not kept nothing is read. Only a directory that
is not UTF-8 makes a difference between files and tables beyond that, and it is none that a gateway can name in
JSON. -/
theorem kept_iff_storable (catalog : Catalog) (policy : LockPolicy) {desk : Desk Tree} {number : Nat} {flight : Flight}
    (response : Response) (finishedAt : Timestamp) (nonce : UInt32) (found : desk.find? number = some flight)
    (calling : flight.stage = .calling) :
    let record := flight.execution.record response finishedAt
    let ledger (store : RunStore Tree) := (conclude ⟨catalog, policy, store⟩ number response finishedAt nonce desk).2.ledger
    (∀ root opened staging location, desk.ledger.makeDirectories root = (.ok (), opened) →
      opened.vacancy (FileStore.stagingPath root record.runId nonce) = .ok staging →
      opened.vacancy (FileStore.recordPath root record.runId) = .ok location →
      (((FileStore.store root).append nonce record desk.ledger).1 = .ok () ↔ record.isPrintable = true) ∧
      ((FileStore.store root).read record.runId.text (ledger (FileStore.store root))).1 =
        if record.isPrintable then some record else none) ∧
    (∀ path database, SqlStore.KeptAt path database desk.ledger → SqlStore.Migrated database →
      database.hasRun record.runId.text = false →
      (((SqlStore.store path).append nonce record desk.ledger).1 = .ok () ↔
        record.isTimed = true ∧ response.duration.toNat ≤ SqlStore.greatestInteger) ∧
      ((SqlStore.store path).read record.runId.text (ledger (SqlStore.store path))).1 =
        if record.isTimed = true ∧ response.duration.toNat ≤ SqlStore.greatestInteger then
          some (SqlStore.asText record)
        else none) ∧
    (response.directory.all (·.isText) = true → record.isPrintable = record.isTimed ∧
      SqlStore.asText record = record) := by
  intro record ledger
  have written (store : RunStore Tree) : ledger store = (store.append nonce record desk.ledger).2 := by
    have left := (conclude_eq ⟨catalog, policy, store⟩ response finishedAt nonce found calling).2
    refine left.trans ?_
    unfold RunStore.write
    cases store.append nonce record desk.ledger with
    | mk answer after => cases answer <;> rfl
  have keepable : SqlStore.Keepable record ↔ record.isTimed = true ∧
      response.duration.toNat ≤ SqlStore.greatestInteger :=
    ⟨fun keepable => ⟨keepable.timed, keepable.short⟩, fun both => ⟨both.1, both.2⟩⟩
  refine ⟨?_, ?_, ?_⟩
  · intro root opened staging location made staged vacant
    obtain ⟨accepted, got⟩ := FileStore.append_new made staged vacant
    refine ⟨accepted, ?_⟩
    rw [RunStore.read_text, written, FileStore.store_append, FileStore.store_get]
    dsimp only
    rw [got]
  · intro path database kept migrated absent
    obtain ⟨accepted, got⟩ := migrated.append_new absent
    obtain ⟨answers, after⟩ := kept.serve (.append nonce record)
    have answer : ((SqlStore.store path).append nonce record desk.ledger).1 =
        (SqlStore.append record database).1.mapError fun failure => .sqlStore "append" failure (some record.runId) :=
      LedgerAnswer.appended.inj answers
    refine ⟨?_, ?_⟩
    · rw [answer]
      refine Iff.trans ?_ (accepted.trans keepable)
      cases (SqlStore.append record database).1 <;> simp [Except.mapError]
    · have there : SqlStore.KeptAt path (SqlStore.append record database).2 ((SqlStore.store path).append nonce record desk.ledger).2 :=
        after
      rw [RunStore.read_text, written, there.get, got]
      exact if_congr keepable rfl rfl
  · intro isText
    have paths : ∀ path ∈ record.artifactPaths, path.isText = true := by
      intro path among
      exact (Option.all_eq_true _ _).mp isText path (Option.mem_toList.mp among)
    refine ⟨?_, SqlStore.asText_of_isText paths⟩
    rw [RunRecord.isPrintable, List.all_eq_true.mpr paths, Bool.and_true]

/-- A working directory with a database in it that has been brought to the latest version. -/
def besideRows : Tree := Tree.empty.put ["runs.db", "work"] (.database (SqlStore.ofLog []))

/-- The answer of a gateway that claims to have worked for more milliseconds than a column can hold. -/
def overlong : Response := { Response.blank with ok := true, httpStatus := some 200, duration := 9223372036854775808 }

/-- The record of one and the same run is kept in files and lost in tables. -/
theorem kept_iff_storable_overlong :
    let catalog := ofDeployment.catalog
    let policy := ofDeployment.policy
    let files := FileStore.store (.ofText "/work")
    let rows := SqlStore.store (.ofText "runs.db")
    let desk : Desk Tree := ⟨LockTable.empty, besideRows, [deployment], 1⟩
    let record := deployment.execution.record overlong (.newYear 1000000000)
    let ledger (store : RunStore Tree) := (conclude ⟨catalog, policy, store⟩ 0 overlong (.newYear 1000000000) 5 desk).2.ledger
    desk.find? 0 = some deployment ∧ deployment.stage = .calling ∧
    SqlStore.KeptAt (.ofText "runs.db") (SqlStore.ofLog []) besideRows ∧ SqlStore.Migrated (SqlStore.ofLog []) ∧
    (files.append 5 record besideRows).1 = .ok () ∧ (files.read "20260101T000000Z-0001" (ledger files)).1 = some record ∧
    (rows.append 5 record besideRows).1 ≠ .ok () ∧ (rows.read "20260101T000000Z-0001" (ledger rows)).1 = none := by
  intro catalog policy files rows desk record ledger
  obtain ⟨leads, _⟩ := leads_work besideRows rfl rfl
  have made := makeDirectories_of_isDirectory (isDirectory_work besideRows rfl rfl)
  have staged : besideRows.vacancy (FileStore.stagingPath (.ofText "/work") record.runId 5) =
      .ok [FileStore.stagingName record.runId 5, "work"] :=
        FileStore.vacancy_stagingPath leads ⟨by decide, by decide⟩ (by decide)
  have vacant : besideRows.vacancy (FileStore.recordPath (.ofText "/work") record.runId) =
      .ok [FileStore.recordName record.runId, "work"] :=
        FileStore.vacancy_recordPath leads ⟨by decide, by decide⟩ (by decide)
  have kept : SqlStore.KeptAt (.ofText "runs.db") (SqlStore.ofLog []) besideRows := keptAt_put _
  have migrated := SqlStore.migrated_ofLog []
  obtain ⟨inFiles, inRows, _⟩ := kept_iff_storable catalog policy overlong (.newYear 1000000000) 5
    (show desk.find? 0 = some deployment from rfl) rfl
  obtain ⟨accepted, read⟩ := inFiles (.ofText "/work") besideRows _ _ made staged vacant
  obtain ⟨acceptedIff, unread⟩ := inRows (.ofText "runs.db") (SqlStore.ofLog []) kept migrated rfl
  have printable : record.isPrintable = true := by decide
  have long : ¬(record.isTimed = true ∧ overlong.duration.toNat ≤ SqlStore.greatestInteger) := by decide
  rw [if_pos printable] at read
  rw [if_neg long] at unread
  exact ⟨rfl, rfl, kept, migrated, accepted.mpr printable, read, fun taken => long (acceptedIff.mp taken), unread⟩

end Coordinator

end SingleFlight
