import Mathlib.Data.List.Basic
import SingleFlight.Ledger.SqlStore
import SingleFlight.Proofs.Calls
import SingleFlight.Proofs.Minting
import SingleFlight.Proofs.Spelling
import SingleFlight.Proofs.Walking

/-!
What becomes of the tables of a ledger. An append puts in all the rows of a record behind the rows that
are there, or puts in none; so a record that can be read is read the same way from then on.
-/

namespace SingleFlight.Ledger

open Text

variable {database after : Database} {record : RunRecord} {runId : RunId}

theorem NumberCell.isAtMost_integer {first second : Int} :
    isAtMost (.integer first) (.integer second) = true ↔ first ≤ second := by
  rw [Int.le_iff_lt_or_eq, ← Rat.intCast_lt_intCast]
  simp only [isAtMost, rank, Nat.lt_irrefl, decide_false, decide_true, value, Rat.intCast_inj, content, Std.le_refl,
    Bool.and_true, Bool.true_and, Bool.false_or, Bool.or_eq_true, decide_eq_true_eq]
  exact or_congr_left decide_eq_true_iff

theorem TextCell.isAtMost_trans {first second third : TextCell} (before : first.isAtMost second = true)
    (after : second.isAtMost third = true) : first.isAtMost third = true := by
  cases first <;> cases second <;> cases third <;> simp_all [isAtMost] <;> exact Std.le_trans before after

theorem TextCell.isAtMost_total (first second : TextCell) :
    (first.isAtMost second || second.isAtMost first) = true := by
  cases first <;> cases second <;> simp [isAtMost, Std.le_total]

theorem TextCell.isAtMost_antisymm {first second : TextCell} (before : first.isAtMost second = true)
    (after : second.isAtMost first = true) : first = second := by
  cases first <;> cases second <;> simp_all [isAtMost] <;> exact Std.le_antisymm before after

/-- The ids of two runs are two keys. -/
theorem TextCell.ofRunId_inj {first second : RunId} : (first.text : TextCell) = second.text ↔ first = second := by
  rw [TextCell.text.injEq, Utf8.ofString_inj]
  exact ⟨RunId.eq_of_text, congrArg RunId.text⟩

/-- The keys of runs are in the order of their ids. -/
theorem TextCell.isAtMost_runId {first second : RunId} :
    isAtMost ↑first.text ↑second.text = true ↔ first.text ≤ second.text :=
  decide_eq_true_iff.trans (Utf8.ofString_le_iff first.ascii second.ascii)

namespace Database

theorem insertRun_ok {row : RunRow} (inserted : database.insertRun row = .ok after) :
    ∃ rows, database.runs = some rows ∧ row.runId.any database.hasRun = false ∧
      after = { database with runs := some (rows ++ [row]) } := by
  unfold insertRun at inserted
  split at inserted
  next => cases inserted
  next rows there =>
    split at inserted
    next => cases inserted
    next absent =>
      cases inserted
      exact ⟨rows, there, by simpa using absent, rfl⟩

theorem insertPath_ok {row : PathRow} (inserted : database.insertPath row = .ok after) :
    ∃ held, database.paths = some held ∧ after = { database with paths := some (held ++ [row]) } := by
  unfold insertPath at inserted
  split at inserted
  next => cases inserted
  next held there =>
    split at inserted
    next => cases inserted
    next =>
      split at inserted
      next => cases inserted
      next =>
        cases inserted
        exact ⟨held, there, rfl⟩

/-- Paths that are all put in come behind the others, in their order. -/
theorem insertPaths_ok {held rows : List PathRow} (there : database.paths = some held)
    (inserted : rows.foldlM (fun held row => held.insertPath row) database = .ok after) :
    after = { database with paths := some (held ++ rows) } := by
  induction rows generalizing database held with
  | nil =>
    cases inserted
    rw [List.append_nil, ← there]
  | cons row rest ih =>
    rw [List.foldlM_cons] at inserted
    cases first : database.insertPath row with
    | error failure =>
      rw [first] at inserted
      cases inserted
    | ok between =>
      rw [first] at inserted
      obtain ⟨_, sameThere, rfl⟩ := insertPath_ok first
      rw [there] at sameThere
      cases sameThere
      have longer : ({ database with paths := some (held ++ [row]) } : Database).paths = some (held ++ [row]) := rfl
      have last := ih longer inserted
      rw [last, List.append_assoc]
      rfl

/-- Whether two path rows may not both be in the table. -/
def Collide (first second : PathRow) : Prop := first.runId = second.runId ∧ first.position = second.position

/-- Paths of runs that are there can be put in, unless a place is taken. -/
theorem insertPaths_of {held rows : List PathRow} (there : database.paths = some held)
    (known : ∀ row ∈ rows, database.hasRun row.runId = true) (apart : rows.Pairwise (fun first second => ¬Collide first second))
    (free : ∀ row ∈ rows, ∀ other ∈ held, ¬Collide other row) :
    rows.foldlM (fun held row => held.insertPath row) database = .ok { database with paths := some (held ++ rows) } := by
  induction rows generalizing database held with
  | nil =>
    rw [List.append_nil, ← there]
    rfl
  | cons row rest ih =>
    obtain ⟨apartRow, apartRest⟩ := List.pairwise_cons.mp apart
    have vacant : held.any (fun other => other.runId = row.runId && other.position = row.position) = false := by
      rw [List.any_eq_false]
      intro other found
      have different := free row List.mem_cons_self other found
      simpa [Collide] using different
    have first : database.insertPath row = .ok { database with paths := some (held ++ [row]) } := by
      unfold insertPath
      rw [there]
      dsimp only
      rw [vacant, known row List.mem_cons_self]
      rfl
    have longer : ({ database with paths := some (held ++ [row]) } : Database).paths = some (held ++ [row]) := rfl
    rw [List.foldlM_cons, first]
    refine (ih longer ?_ apartRest ?_).trans ?_
    · intro later found
      exact known later (List.mem_cons_of_mem _ found)
    · intro later found other otherIn
      rcases List.mem_append.mp otherIn with before | same
      · exact free later (List.mem_cons_of_mem _ found) other before
      · rw [List.mem_singleton.mp same]
        exact apartRow later found
    · rw [List.append_assoc]
      rfl

end Database

namespace SqlStore

open Database

/-- What can come of an append to the tables: one run row and the paths of the run at the positions from
zero on, or a failure and the rows that were there. -/
inductive Outcome (record : RunRecord) (database : Database) : Except SqlFailure Unit × Database → Prop where
  | added (absent : ∀ row ∈ database.runRows, row.runId ≠ some record.runId.text) :
    Outcome record database (.ok (), { database.withVersions with
      runs := some (database.runRows ++ [runRow record])
      paths := some (database.pathRows ++
        record.artifactPaths.mapIdx fun position path => ⟨record.runId.text, .integer position, path.shown⟩) })
  | refused (failure : SqlFailure) : Outcome record database (.error failure, database.withVersions)

theorem pathRows_eq (record : RunRecord) : pathRows record =
    record.artifactPaths.mapIdx fun position path => ⟨record.runId.text, .integer position, path.shown⟩ := by
  rw [List.mapIdx_eq_zipIdx_map]
  rfl

theorem hasRun_eq_false {key : TextCell} :
    database.hasRun key = false ↔ ∀ row ∈ database.runRows, row.runId ≠ some key := by
  simp [hasRun]

/-- The checks that an insertion makes, in their order. -/
theorem insertRecord_eq (record : RunRecord) (database : Database) : insertRecord record database =
    if !record.isTimed then .error .unprintableTime
    else if greatestInteger < record.duration.toNat then .error .valueTooLarge
    else database.insertRun (runRow record) >>= fun inserted =>
      if inserted.paths.isNone then .error (Database.noSuchTable "run_artifact_paths")
      else (pathRows record).foldlM (fun held row => held.insertPath row) inserted := rfl

theorem insertRecord_ok (inserted : insertRecord record database = .ok after) :
    database.hasRun record.runId.text = false ∧ after = { database with
      runs := some (database.runRows ++ [runRow record]), paths := some (database.pathRows ++ pathRows record) } := by
  rw [insertRecord_eq] at inserted
  split at inserted
  next => cases inserted
  split at inserted
  next => cases inserted
  cases first : database.insertRun (runRow record) with
  | error failure =>
    rw [first] at inserted
    cases inserted
  | ok between =>
    rw [first] at inserted
    obtain ⟨rows, there, absent, rfl⟩ := insertRun_ok first
    simp only [bind, Except.bind] at inserted
    cases paths : database.paths with
    | none =>
      rw [paths] at inserted
      cases inserted
    | some held =>
      rw [if_neg (by simp [paths])] at inserted
      have kept : ({ database with runs := some (rows ++ [runRow record]) } : Database).paths = some held := paths
      have last := insertPaths_ok kept inserted
      refine ⟨by simpa [runRow] using absent, ?_⟩
      rw [last, Database.runRows, Database.pathRows, there, paths]
      rfl

/-- A record whose run is new to both tables goes in. -/
theorem insertRecord_of {rows : List RunRow} {held : List PathRow} (timed : record.isTimed = true)
    (short : record.duration.toNat ≤ greatestInteger) (runs : database.runs = some rows) (paths : database.paths = some held)
    (absent : database.hasRun record.runId.text = false) (unclaimed : ∀ row ∈ held, row.runId ≠ record.runId.text) :
    insertRecord record database = .ok { database with
      runs := some (rows ++ [runRow record]), paths := some (held ++ pathRows record) } := by
  have inserted : database.insertRun (runRow record) = .ok { database with runs := some (rows ++ [runRow record]) } := by
    unfold insertRun
    rw [runs]
    dsimp only
    rw [if_neg (by simpa [runRow] using absent)]
  have owned (row : PathRow) (found : row ∈ pathRows record) : row.runId = record.runId.text := by
    obtain ⟨_, _, rfl⟩ := List.mem_map.mp found
    rfl
  rw [insertRecord_eq, timed, if_neg (by decide), if_neg (Nat.not_lt.mpr short), inserted]
  simp only [bind, Except.bind]
  rw [if_neg (by simp [paths])]
  have kept : ({ database with runs := some (rows ++ [runRow record]) } : Database).paths = some held := paths
  apply insertPaths_of kept
  · intro row found
    rw [owned row found]
    simp [hasRun, Database.runRows, runRow]
  · rw [pathRows_eq, List.pairwise_iff_getElem]
    intro first second firstIn secondIn before collide
    rw [List.getElem_mapIdx, List.getElem_mapIdx] at collide
    have same := collide.2
    injection same with positions
    omega
  · intro row found other otherIn collide
    exact unclaimed other otherIn (collide.1.trans (owned row found))

theorem ready_cases (database : Database) :
    ready database = (.error .schemaOutdated, database.withVersions) ∨ ready database = (.ok (), database.withVersions) := by
  unfold ready
  dsimp only
  split
  next => exact .inl rfl
  next => exact .inr rfl

theorem append_outcome (record : RunRecord) (database : Database) : Outcome record database (append record database) := by
  unfold append
  rcases ready_cases database with outdated | there
  · rw [outdated]
    exact .refused _
  · rw [there]
    dsimp only
    cases inserted : insertRecord record database.withVersions with
    | error failure => exact .refused failure
    | ok changed =>
      obtain ⟨absent, rfl⟩ := insertRecord_ok inserted
      rw [pathRows_eq]
      exact .added (hasRun_eq_false.mp absent)

/-- The ledger in tables that are at hand. -/
def named {α : Type} (operation : String) (run : Option RunId) (result : Except SqlFailure α × Database) :
    Except Fault α × Database :=
  (result.1.mapError fun failure => .sqlStore operation failure run, result.2)

def tables : RunStore Database where
  append _ record database := named "append" (some record.runId) (append record database)
  get runId database := named "get" none (query (find runId) database)
  listRecent filter limit database :=
    if limit = 0 then (.ok [], database) else named "list_recent" none (query (recent filter limit) database)

theorem serve_append {answer : Except SqlFailure Unit} (appended : append record database = (answer, after)) (nonce : UInt32) :
    tables.serve database (.append nonce record) =
      (.appended (answer.mapError fun failure => .sqlStore "append" failure (some record.runId)), after) := by
  rw [RunStore.serve, tables]
  dsimp only
  rw [appended, named]

theorem serve_get {answer : Except SqlFailure (Option RunRecord)} (found : query (find runId) database = (answer, after)) :
    tables.serve database (.get runId) = (.got (answer.mapError fun failure => .sqlStore "get" failure none), after) := by
  rw [RunStore.serve, tables]
  dsimp only
  rw [found, named]

theorem serve_listRecent {filter : RunFilter} {limit : Nat} {answer : Except SqlFailure (List RunRecord)} (some : limit ≠ 0)
    (listed : query (recent filter limit) database = (answer, after)) :
    tables.serve database (.listRecent filter limit) =
      (.listed (answer.mapError fun failure => .sqlStore "list_recent" failure none), after) := by
  rw [RunStore.serve, tables]
  dsimp only
  rw [if_neg some, listed, named]

theorem query_eq {α : Type} (read : Database → Except SqlFailure α) (database : Database) :
    query read database = (if database.withVersions.version < Migration.latestVersion then .error .schemaOutdated
      else read database.withVersions, database.withVersions) := by
  by_cases outdated : database.withVersions.version < Migration.latestVersion
  · simp [query, ready, outdated]
  · simp [query, ready, outdated]

theorem text?_eq_some {cell : TextCell} {text : String} : cell.text? = some text ↔ cell = ↑text := by
  cases cell <;> simp [TextCell.text?, OsText.text?_iff]

@[simp]
theorem text?_text (column text : String) : text? column ↑text = .ok text := by
  rw [text?, TextCell.text?, OsText.text?_ofString]

theorem text?_ok {column text : String} {cell : TextCell} (read : text? column cell = .ok text) : cell = ↑text := by
  unfold text? at read
  split at read
  next found =>
    cases read
    exact text?_eq_some.mp found
  next => cases read

/-- A row is read as a record of the run and the project that it names. -/
theorem decode_ok {row : RunRow} (read : decode row = .ok record) :
    row.runId = some ↑record.runId.text ∧ row.project = ↑record.project := by
  obtain ⟨text, named, read⟩ := bind_ok read
  obtain ⟨project, owner, read⟩ := bind_ok read
  obtain ⟨action, _, read⟩ := bind_ok read
  obtain ⟨startedText, _, read⟩ := bind_ok read
  obtain ⟨finishedText, _, read⟩ := bind_ok read
  obtain ⟨statusText, _, read⟩ := bind_ok read
  obtain ⟨exitCode, _, read⟩ := bind_ok read
  obtain ⟨duration, _, read⟩ := bind_ok read
  obtain ⟨errorSummary, _, read⟩ := bind_ok read
  dsimp only at read
  have same : record.runId.text = text ∧ record.project = project := by
    cases spelled : RunId.ofText? text with
    | none =>
      rw [spelled] at read
      cases read
    | some decoded =>
      rw [spelled] at read
      cases status : RunStatus.ofName? statusText with
      | none =>
        rw [status] at read
        cases read
      | some known =>
        rw [status] at read
        obtain ⟨_, same, read⟩ := bind_ok read
        cases same
        obtain ⟨_, _, read⟩ := bind_ok read
        obtain ⟨startedAt, _, read⟩ := bind_ok read
        obtain ⟨finishedAt, _, read⟩ := bind_ok read
        split at read
        next => cases read
        next =>
          cases read
          exact ⟨RunId.text_of_ofText? spelled, rfl⟩
  rw [same.1, same.2]
  refine ⟨?_, text?_ok owner⟩
  cases key : row.runId with
  | none =>
    rw [key] at named
    cases named
  | some cell =>
    rw [key] at named
    rw [text?_ok named]

theorem decode_runId {row : RunRow} (read : decode row = .ok record) : row.runId = some ↑record.runId.text :=
  (decode_ok read).1

/-- A record that is found comes from the first row of its run, and has the paths of that run. -/
theorem find_iff : find runId database = .ok (some record) ↔
    ∃ rows row bare paths, database.runs = some rows ∧ rows.find? (·.runId = some ↑runId.text) = some row ∧
      decode row = .ok bare ∧ loadPaths database bare.runId = .ok paths ∧ record = { bare with artifactPaths := paths } := by
  constructor
  · intro found
    obtain ⟨rows, there, found⟩ := bind_ok found
    have runs : database.runs = some rows := by
      unfold runRows at there
      split at there
      next => cases there
      next same =>
        cases there
        exact same
    cases first : rows.find? (·.runId = some ↑runId.text) with
    | none =>
      rw [first] at found
      cases found
    | some row =>
      rw [first] at found
      obtain ⟨bare, read, found⟩ := bind_ok found
      obtain ⟨whole, joined, found⟩ := bind_ok found
      obtain ⟨paths, loaded, joined⟩ := bind_ok joined
      cases joined
      cases found
      exact ⟨rows, row, bare, paths, runs, first, read, loaded, rfl⟩
  · intro found
    obtain ⟨rows, row, bare, paths, runs, first, read, loaded, whole⟩ := found
    simp [find, runRows, runs, first, read, withPaths, loaded, whole, bind, Except.bind, pure, Except.pure]

/-- A record that is found is found whatever else is appended. -/
theorem Outcome.find {other : RunRecord} {answer : Except SqlFailure Unit} (outcome : Outcome other database (answer, after))
    (found : find runId database.withVersions = .ok (some record)) : find runId after = .ok (some record) := by
  cases outcome with
  | refused => exact found
  | added absent =>
    rw [find_iff] at found ⊢
    obtain ⟨rows, row, bare, paths, runs, first, read, loaded, whole⟩ := found
    have held : database.runRows = rows := by
      rw [Database.runRows]
      change database.runs = some rows at runs
      rw [runs]
      rfl
    have different : other.runId.text ≠ bare.runId.text := by
      intro same
      apply absurd (decode_runId read)
      rw [← same]
      exact absent row (held ▸ List.mem_of_find?_eq_some first)
    refine ⟨_, row, bare, paths, rfl, ?_, read, ?_, whole⟩
    · rw [held, List.find?_append, first, Option.some_or]
    · have same : loadPaths database.withVersions bare.runId = loadPaths database bare.runId := rfl
      rw [same] at loaded
      unfold loadPaths at loaded ⊢
      cases there : database.paths with
      | none =>
        rw [there] at loaded
        cases loaded
      | some pathsHeld =>
        rw [there] at loaded
        rw [← loaded]
        have foreign : (other.artifactPaths.mapIdx fun position path =>
            (⟨other.runId.text, .integer position, path.shown⟩ : PathRow)).filter
              (·.runId = (bare.runId.text : TextCell)) = [] := by
          rw [List.filter_eq_nil_iff]
          intro added addedIn
          obtain ⟨position, _, rfl⟩ := List.mem_mapIdx.mp addedIn
          simpa [Utf8.ofString_inj] using different
        dsimp only
        rw [List.filter_append, foreign, List.append_nil, Database.pathRows, there]
        rfl

/-- Whether a run is read back as a record. -/
def Shows (runId : RunId) (record : RunRecord) (database : Database) : Prop :=
  (tables.get runId database).1 = .ok (some record)

theorem shows_iff : Shows runId record database ↔
    ¬database.withVersions.version < Migration.latestVersion ∧ find runId database.withVersions = .ok (some record) := by
  have asked : (tables.get runId database).1 =
      (query (find runId) database).1.mapError fun failure => .sqlStore "get" failure none := rfl
  rw [Shows, asked, query_eq]
  dsimp only
  by_cases outdated : database.withVersions.version < Migration.latestVersion
  · rw [if_pos outdated]
    constructor
    · intro never
      cases never
    · intro both
      exact absurd outdated both.1
  · rw [if_neg outdated]
    cases find runId database.withVersions with
    | error failure => simp [Except.mapError]
    | ok found => simp [Except.mapError, outdated]

/-- No call of the ledger changes what a run is read back as. -/
theorem shows_serve (call : LedgerCall) (shown : Shows runId record database) :
    Shows runId record (tables.serve database call).2 := by
  have stays : Shows runId record database.withVersions := by
    rw [shows_iff] at shown ⊢
    exact shown
  cases call with
  | append nonce other =>
    have outcome := append_outcome other database
    change Shows runId record (append other database).2
    cases appended : append other database with
    | mk answer after =>
      rw [appended] at outcome
      rw [shows_iff] at shown ⊢
      have found := outcome.find shown.2
      cases outcome with
      | added => exact ⟨shown.1, found⟩
      | refused => exact ⟨shown.1, found⟩
  | get other =>
    change Shows runId record (query (find other) database).2
    rw [query_eq]
    exact stays
  | listRecent filter limit =>
    rw [RunStore.serve, tables]
    dsimp only
    split
    next => exact shown
    next =>
      change Shows runId record (query (recent filter limit) database).2
      rw [query_eq]
      exact stays

theorem shows_serveAll (calls : List LedgerCall) (shown : Shows runId record database) :
    Shows runId record (tables.serveAll database calls).2 := by
  apply RunStore.serveAll_keeps (Shows runId record) _ (RunStore.throughout_of_forall fun _ _ => trivial) shown
  intro call state _ shown
  exact shows_serve call shown

end SqlStore

end SingleFlight.Ledger
