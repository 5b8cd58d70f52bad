import SingleFlight.Proofs.Readings
import SingleFlight.Proofs.Safekeeping

/-!
What a ledger of tables shows to those who read it. Main statement: where every row can be read, the records that
are read back run by run are those that are listed, the greatest run id first. Tables that are filled by the ledger
alone are of this kind, and stay so.
-/

namespace SingleFlight.Ledger.SqlStore

open Files Text Time

variable {path : Path} {tree : Tree} {database : Database} {record : RunRecord} {runId : RunId} {log : List RunRecord}
  {filter : RunFilter}

/-- Whether tables are as the migrations leave them, and have rows that can be read, one for each run. -/
structure Legible (database : Database) : Prop where
  migrated : Migrated database
  distinct : (database.runRows.map (·.runId)).Nodup
  readable : ∀ row ∈ database.runRows, ∃ record, decode row = .ok record
  spelled : ∀ row ∈ database.pathRows, ∃ path, decodePath row = .ok path

section Step

theorem decodePath_pathRows {row : PathRow} (among : row ∈ pathRows record) :
    ∃ path, decodePath row = .ok path := by
  obtain ⟨entry, _, rfl⟩ := List.mem_map.mp among
  exact ⟨.ofText entry.1.shown, by rw [decodePath, text?_text]; rfl⟩

theorem legible_ofLog (storable : ∀ record ∈ log, Storable record) (distinct : (log.map (·.runId)).Nodup) :
    Legible (ofLog log) where
  migrated := migrated_ofLog log
  distinct := by
    have keys : (ofLog log).runRows.map (·.runId) = (log.map (·.runId)).map fun runId => some ↑runId.text := by
      rw [List.map_map]
      exact List.map_map
    rw [keys]
    apply distinct.map
    intro first second same
    exact TextCell.ofRunId_inj.mp (Option.some.inj same)
  readable := by
    intro row found
    obtain ⟨record, recordIn, rfl⟩ := List.mem_map.mp found
    exact ⟨bare record, decode_runRow (storable record recordIn)⟩
  spelled := by
    intro row found
    obtain ⟨record, _, own⟩ := List.mem_flatMap.mp found
    exact decodePath_pathRows own

theorem keepable_of_append {after : Database} (appended : append record database = (.ok (), after)) :
    Keepable record := by
  by_contra unkeepable
  obtain ⟨failure, refused⟩ := insertRecord_of_not_keepable unkeepable database.withVersions
  unfold append at appended
  rcases ready_cases database with outdated | there
  · rw [outdated] at appended
    cases appended
  · rw [there] at appended
    dsimp only at appended
    rw [refused] at appended
    cases appended

theorem Legible.withVersions (legible : Legible database) : Legible database.withVersions :=
  ⟨⟨legible.migrated.current, legible.migrated.runs, legible.migrated.paths, legible.migrated.owned⟩,
    legible.distinct, legible.readable, legible.spelled⟩

/-- An append puts in a row that can be read, of a run that had none, or it leaves the rows as they are. -/
theorem Legible.append (legible : Legible database) (record : RunRecord) : Legible (append record database).2 := by
  have outcome := append_outcome record database
  cases appended : SqlStore.append record database with
  | mk answer after =>
    rw [appended] at outcome
    have migrated := legible.migrated.outcome outcome
    cases outcome with
    | refused failure => exact legible.withVersions
    | added absent =>
      have keepable := keepable_of_append appended
      refine ⟨migrated, ?_, ?_, ?_⟩
      · change ((database.runRows ++ [runRow record]).map (·.runId)).Nodup
        rw [List.map_append, List.nodup_append]
        refine ⟨legible.distinct, List.nodup_singleton _, ?_⟩
        intro key before own ownIs same
        obtain ⟨row, rowIn, rfl⟩ := List.mem_map.mp before
        rw [List.mem_singleton.mp ownIs] at same
        exact absent row rowIn same
      · intro row found
        rcases List.mem_append.mp found with before | own
        · exact legible.readable row before
        · rw [List.mem_singleton.mp own]
          have read := decode_runRow (storable_asText.mpr keepable)
          exact ⟨bare (asText record), read⟩
      · intro row found
        rcases List.mem_append.mp found with before | own
        · exact legible.spelled row before
        · rw [← pathRows_eq] at own
          exact decodePath_pathRows own

theorem Legible.serve (legible : Legible database) (call : LedgerCall) : Legible (tables.serve database call).2 := by
  cases call with
  | append nonce record => exact legible.append record
  | get runId =>
    change Legible (query (find runId) database).2
    rw [query_eq]
    exact legible.withVersions
  | listRecent filter limit =>
    rw [RunStore.serve, tables]
    dsimp only
    split
    next => exact legible
    next =>
      change Legible (query (recent filter limit) database).2
      rw [query_eq]
      exact legible.withVersions

/-- Whatever is asked of the ledger, its rows can still be read. -/
theorem Legible.serveAll (legible : Legible database) (calls : List LedgerCall) :
    Legible (tables.serveAll database calls).2 := by
  apply RunStore.serveAll_keeps Legible _ (RunStore.throughout_of_forall fun _ _ => trivial) legible
  intro call state _ held
  exact held.serve call

end Step

section Order

/-- A row comes before those whose keys its own key is not below. -/
theorem comesFirst_iff {first second : RunRow} : comesFirst first second = true ↔
    ∀ secondId, second.runId = some secondId → ∃ firstId, first.runId = some firstId ∧
      secondId.isAtMost firstId = true := by
  unfold comesFirst
  cases first.runId <;> cases second.runId <;> simp

theorem comesFirst_trans (first second third : RunRow) (before : comesFirst first second = true)
    (after : comesFirst second third = true) : comesFirst first third = true := by
  rw [comesFirst_iff] at *
  intro thirdId thirdKey
  obtain ⟨secondId, secondKey, thirdBelow⟩ := after thirdId thirdKey
  obtain ⟨firstId, firstKey, secondBelow⟩ := before secondId secondKey
  exact ⟨firstId, firstKey, TextCell.isAtMost_trans thirdBelow secondBelow⟩

theorem comesFirst_total (first second : RunRow) : (comesFirst first second || comesFirst second first) = true := by
  unfold comesFirst
  cases first.runId with
  | none => cases second.runId <;> rfl
  | some firstId =>
    cases second.runId with
    | none => rfl
    | some secondId => exact TextCell.isAtMost_total secondId firstId

end Order

section Paths

/-- The path that a row holds, whether it can be read or not. -/
def heldPath (row : PathRow) : Path :=
  match row.path with
  | .text spelled | .bytes spelled => ⟨spelled⟩

theorem decodePath_eq {row : PathRow} (spelled : ∃ path, decodePath row = .ok path) :
    decodePath row = .ok (heldPath row) := by
  obtain ⟨path, read⟩ := spelled
  obtain ⟨text, cell, own⟩ := bind_ok read
  rw [read, heldPath, text?_ok cell]
  cases own
  rfl

/-- Whether a path of a run cannot be read. -/
def PathUnread (database : Database) (runId : RunId) : Prop :=
  ∃ row ∈ database.pathRows, row.runId = ↑runId.text ∧ ∀ path, decodePath row ≠ .ok path

/-- The paths of a run, in the order of their positions. -/
def pathsOf (database : Database) (runId : RunId) : List Path :=
  ((database.pathRows.filter (·.runId = (runId.text : TextCell))).mergeSort
    (fun first second => first.position.isAtMost second.position)).map heldPath

theorem loadPaths_of (there : database.paths.isSome = true) (read : ¬PathUnread database runId) :
    loadPaths database runId = .ok (pathsOf database runId) := by
  obtain ⟨rows, paths⟩ := Option.isSome_iff_exists.mp there
  have held : database.pathRows = rows := by rw [Database.pathRows, paths, Option.getD_some]
  rw [loadPaths, paths, pathsOf, held]
  apply mapM_eq_map
  intro row found
  obtain ⟨rowIn, own⟩ := List.mem_filter.mp (List.mem_mergeSort.mp found)
  apply decodePath_eq
  by_contra unread
  exact read ⟨row, held ▸ rowIn, of_decide_eq_true own, not_exists.mp unread⟩

theorem loadPaths_error (unread : PathUnread database runId) :
    ∃ failure, loadPaths database runId = .error failure := by
  obtain ⟨row, rowIn, own, unread⟩ := unread
  unfold loadPaths
  split
  next => exact ⟨_, rfl⟩
  next rows there =>
    rw [Database.pathRows, there, Option.getD_some] at rowIn
    refine mapM_error ?_ unread
    rw [List.mem_mergeSort, List.mem_filter]
    exact ⟨rowIn, decide_eq_true own⟩

end Paths

/-- A record with the paths of its run. -/
def whole (database : Database) (record : RunRecord) : RunRecord :=
  { record with artifactPaths := pathsOf database record.runId }

@[simp]
theorem whole_runId (database : Database) (record : RunRecord) : (whole database record).runId = record.runId := rfl

theorem withPaths_of (there : database.paths.isSome = true) (read : ¬PathUnread database record.runId) :
    withPaths database record = .ok (whole database record) := by
  rw [withPaths, loadPaths_of there read]
  rfl

theorem withPaths_error (unread : PathUnread database record.runId) (result : RunRecord) :
    withPaths database record ≠ .ok result := by
  obtain ⟨failure, failed⟩ := loadPaths_error unread
  rw [withPaths, failed]
  intro never
  cases never

/-- All records that a filter keeps, as they are listed. -/
def listed (filter : RunFilter) (database : Database) : List RunRecord :=
  ((((database.runRows.filter (isRowOfProject filter)).mergeSort comesFirst).filterMap read?).filter filter.keeps).map
    (whole database)

/-- The rows that are searched for what a filter keeps, in order. -/
def searched (filter : RunFilter) (database : Database) : List RunRow :=
  (database.runRows.filter (isRowOfProject filter)).mergeSort comesFirst

theorem mem_searched {row : RunRow} : row ∈ searched filter database ↔
    row ∈ database.runRows ∧ isRowOfProject filter row = true := by
  rw [searched, List.mem_mergeSort, List.mem_filter]

theorem sorted_searched (filter : RunFilter) (database : Database) :
    (searched filter database).Pairwise fun first second => comesFirst first second = true :=
  List.pairwise_mergeSort comesFirst_trans comesFirst_total _

/-- Where the table of runs is there, its rows are searched, and paths are added to what is found. -/
theorem recent_eq (runs : database.runs.isSome = true) (filter : RunFilter) (limit : Nat) :
    recent filter limit database =
      collect filter limit (searched filter database) >>= fun found => found.mapM (withPaths database) := by
  have rows : runRows database = .ok database.runRows := by
    obtain ⟨rows, there⟩ := Option.isSome_iff_exists.mp runs
    rw [SqlStore.runRows, Database.runRows, there]
    rfl
  unfold SqlStore.recent
  rw [rows]
  rfl

theorem Legible.pathsRead (legible : Legible database) (runId : RunId) : ¬PathUnread database runId := by
  rintro ⟨row, rowIn, _, unread⟩
  obtain ⟨path, read⟩ := legible.spelled row rowIn
  exact unread path read

theorem Legible.recent (legible : Legible database) (filter : RunFilter) (limit : Nat) :
    recent filter limit database = .ok ((listed filter database).take limit) := by
  have readable : ∀ row ∈ searched filter database, ∃ record, decode row = .ok record := by
    intro row found
    exact legible.readable row (mem_searched.mp found).1
  rw [recent_eq legible.migrated.runs, collect_of_readable filter limit readable, listed, ← List.map_take]
  exact mapM_eq_map fun record _ => withPaths_of legible.migrated.paths (legible.pathsRead record.runId)

theorem sorted_listed (filter : RunFilter) (database : Database) :
    (listed filter database).Pairwise (fun first second => second.runId.text ≤ first.runId.text) := by
  unfold listed
  rw [List.pairwise_map]
  apply List.Pairwise.filter
  rw [List.pairwise_filterMap]
  apply (sorted_searched filter database).imp
  intro first second before firstRecord firstRead secondRecord secondRead
  obtain ⟨firstId, firstKey, below⟩ := comesFirst_iff.mp before _ (decode_runId (read?_iff.mp secondRead))
  rw [decode_runId (read?_iff.mp firstRead)] at firstKey
  rw [← Option.some.inj firstKey] at below
  exact TextCell.isAtMost_runId.mp below

/-- What is listed is what can be read, with the paths of its run, as far as a filter keeps it. -/
theorem mem_listed : record ∈ listed filter database ↔ ∃ row ∈ database.runRows, ∃ bare, decode row = .ok bare ∧
    record = whole database bare ∧ filter.keeps record = true := by
  unfold listed
  simp only [List.mem_map, List.mem_filter, List.mem_filterMap, List.mem_mergeSort, read?_iff]
  constructor
  · rintro ⟨bare, ⟨⟨row, ⟨rowIn, _⟩, read⟩, keeps⟩, rfl⟩
    exact ⟨row, rowIn, bare, read, rfl, keeps⟩
  · rintro ⟨row, rowIn, bare, read, rfl, keeps⟩
    have ofProject : isRowOfProject filter row = true := by
      have own := (Bool.and_eq_true_iff.mp keeps).1
      unfold isRowOfProject
      rw [(decode_ok read).2]
      cases asked : filter.project with
      | none => rfl
      | some project =>
        rw [asked, Option.all_some, beq_iff_eq] at own
        rw [own, Option.all_some, decide_eq_true_eq]
        rfl
    exact ⟨bare, ⟨⟨row, ⟨rowIn, ofProject⟩, read⟩, keeps⟩, rfl⟩

/-- What is listed is what is read back run by run, as far as a filter keeps it. -/
theorem Legible.mem_listed (legible : Legible database) (filter : RunFilter) :
    record ∈ listed filter database ↔ find record.runId database = .ok (some record) ∧ filter.keeps record = true := by
  obtain ⟨rows, runs⟩ := Option.isSome_iff_exists.mp legible.migrated.runs
  have held : database.runRows = rows := by rw [Database.runRows, runs, Option.getD_some]
  have loaded (runId : RunId) := loadPaths_of legible.migrated.paths (legible.pathsRead runId)
  rw [SqlStore.mem_listed]
  constructor
  · rintro ⟨row, rowIn, bare, read, rfl, keeps⟩
    refine ⟨find_iff.mpr ⟨rows, row, bare, _, runs, ?_, read, loaded bare.runId, rfl⟩, keeps⟩
    rw [← held, whole_runId, ← decode_runId read]
    exact find?_of_key legible.distinct rowIn
  · intro given
    obtain ⟨found, keeps⟩ := given
    obtain ⟨others, row, bare, paths, otherRuns, first, read, own, same⟩ := find_iff.mp found
    obtain rfl := Option.some.inj (runs.symm.trans otherRuns)
    obtain rfl := Except.ok.inj ((loaded bare.runId).symm.trans own)
    exact ⟨row, held ▸ List.mem_of_find?_eq_some first, bare, read, same, keeps⟩

theorem KeptAt.listRecent_eq (kept : KeptAt path database tree)
    (current : Migration.latestVersion ≤ database.withVersions.version) (filter : RunFilter) (limit : Nat) :
    ((store path).listRecent filter limit tree).1 = if limit = 0 then .ok []
      else (recent filter limit database.withVersions).mapError fun failure => .sqlStore "list_recent" failure none := by
  have answers : LedgerAnswer.listed ((store path).listRecent filter limit tree).1 =
      .listed (tables.listRecent filter limit database).1 := (kept.serve (.listRecent filter limit)).1
  rw [LedgerAnswer.listed.inj answers, tables]
  dsimp only
  split
  next => rfl
  next => rw [named, query_eq, if_neg (Int.not_lt.mpr current)]

theorem KeptAt.listRecent (kept : KeptAt path database tree) (legible : Legible database) (filter : RunFilter) (limit : Nat) :
    ((store path).listRecent filter limit tree).1 = .ok ((listed filter database.withVersions).take limit) := by
  rw [kept.listRecent_eq legible.withVersions.migrated.current, legible.withVersions.recent]
  split
  next nothing => rw [nothing, List.take_zero]
  next => rfl

/-- A ledger of tables shows what is read back from it run by run. -/
theorem KeptAt.shows (kept : KeptAt path database tree) (legible : Legible database) :
    (store path).Shows tree fun record => ((store path).get record.runId tree).1 = .ok (some record) := by
  intro filter
  refine ⟨listed filter database.withVersions, sorted_listed _ _, ?_, ?_⟩
  · intro record
    rw [legible.withVersions.mem_listed]
    apply and_congr_left'
    dsimp only
    rw [kept.get]
    have shown : (tables.get record.runId database).1 = .ok (some record) ↔ _ := shows_iff
    rw [shown]
    exact ⟨fun found => ⟨Int.not_lt.mpr legible.migrated.current, found⟩, And.right⟩
  · intro limit
    have found := kept.listRecent legible filter limit
    unfold RunStore.listMatching
    cases answer : (store path).listRecent filter limit tree with
    | mk result after =>
      rw [answer] at found
      dsimp only at found
      rw [found]

end SingleFlight.Ledger.SqlStore
