import Mathlib.Data.List.Nodup
import SingleFlight.Proofs.DatabaseFiles
import SingleFlight.Proofs.DirectoryLog
import SingleFlight.Proofs.TableLog

/-!
The two kinds of ledger. Main statement: one in files and one in tables, both empty at first, answer any
calls alike, as the log does in which each run has the first record that was appended for it.
-/

namespace SingleFlight.Ledger

open Files Files.Tree

/-- The record that a call brings, if it brings one. -/
def LedgerCall.record? : LedgerCall → Option RunRecord
  | append _ record => some record
  | _ => none

namespace RunLog

variable {sound : RunRecord → Prop} {log : List RunRecord} {runId : RunId}

/-- Whether a log holds sound records only, and one at most for each run. -/
structure Orderly (sound : RunRecord → Prop) (log : List RunRecord) : Prop where
  all : ∀ record ∈ log, sound record
  distinct : (log.map (·.runId)).Nodup

/-- Whether the record that a call brings is sound. -/
def Brings (sound : RunRecord → Prop) (call : LedgerCall) : Prop := ∀ record, call.record? = some record → sound record

theorem orderly_nil : Orderly sound [] := ⟨fun _ never => absurd never List.not_mem_nil, List.nodup_nil⟩

theorem Orderly.append (orderly : Orderly sound log) {record : RunRecord} (isSound : sound record) :
    Orderly sound (append record log).2 := by
  unfold RunLog.append
  split
  next => exact orderly
  next new =>
    rw [holds_iff] at new
    refine ⟨?_, ?_⟩
    · intro other otherIn
      rcases List.mem_append.mp otherIn with before | same
      · exact orderly.all other before
      · rw [List.mem_singleton.mp same]
        exact isSound
    · rw [List.map_append, List.nodup_append]
      refine ⟨orderly.distinct, by simp, ?_⟩
      intro first firstIn second secondIn same
      apply new
      simp only [List.map_cons, List.map_nil, List.mem_singleton] at secondIn
      rw [← secondIn, ← same]
      exact firstIn

theorem Orderly.serve (orderly : Orderly sound log) (call : LedgerCall) (brings : Brings sound call) :
    Orderly sound (store.serve log call).2 := by
  cases call with
  | append nonce record => exact orderly.append (brings record rfl)
  | get runId => exact orderly
  | listRecent filter limit => exact orderly

theorem orderly_serveAll {calls : List LedgerCall} (orderly : Orderly sound log) (brings : ∀ call ∈ calls, Brings sound call) :
    Orderly sound (store.serveAll log calls).2 := by
  induction calls generalizing log with
  | nil => exact orderly
  | cons call rest ih =>
    have stepped := orderly.serve call (brings call List.mem_cons_self)
    exact ih stepped fun later found => brings later (List.mem_cons_of_mem _ found)

/-- A run has the first record that is appended for it. -/
theorem find?_serve (log : List RunRecord) (call : LedgerCall) (runId : RunId) :
    find? runId (store.serve log call).2 = find? runId (log ++ call.record?.toList) := by
  cases call with
  | get other => exact congrArg (find? runId) (List.append_nil log).symm
  | listRecent filter limit => exact congrArg (find? runId) (List.append_nil log).symm
  | append nonce record =>
    change find? runId (append record log).2 = find? runId (log ++ [record])
    unfold append
    split
    next known =>
      rw [← find?_isSome] at known
      unfold find? at known ⊢
      rw [List.find?_append]
      by_cases same : record.runId = runId
      · rw [same] at known
        rw [Option.or_of_isSome known]
      · rw [List.find?_cons_of_neg (by simpa using same), List.find?_nil, Option.or_none]
    next => rfl

theorem find?_serveAll (log : List RunRecord) (calls : List LedgerCall) (runId : RunId) :
    find? runId (store.serveAll log calls).2 = find? runId (log ++ calls.filterMap LedgerCall.record?) := by
  induction calls generalizing log with
  | nil => exact congrArg (find? runId) (List.append_nil log).symm
  | cons call rest ih =>
    have before := find?_serve log call runId
    have shape : (call :: rest).filterMap LedgerCall.record? = call.record?.toList ++ rest.filterMap LedgerCall.record? := by
      rw [List.filterMap_cons]
      cases call.record? <;> rfl
    rw [RunStore.serveAll, ih, shape, ← List.append_assoc]
    unfold find? at before ⊢
    rw [List.find?_append, before, ← List.find?_append]

/-- The greater id is listed first. -/
theorem falling_recent (distinct : (log.map (·.runId)).Nodup) (filter : RunFilter) (limit : Nat) :
    (recent filter limit log).Pairwise (fun first second => second.runId.text < first.runId.text) := by
  have distinctSorted : (((log.filter filter.keeps).mergeSort comesFirst).map (·.runId)).Nodup := by
    have kept : ((log.filter filter.keeps).map (·.runId)).Nodup := distinct.sublist (List.filter_sublist.map _)
    exact ((List.mergeSort_perm _ comesFirst).map _).nodup_iff.mpr kept
  have apart := List.pairwise_map.mp distinctSorted
  refine List.Pairwise.sublist (List.take_sublist limit _) (List.Pairwise.imp ?_ (apart.and (sorted _)))
  intro first second both
  obtain ⟨different, before⟩ := both
  simp only [comesFirst, decide_eq_true_eq] at before
  rw [← String.not_le]
  intro after
  exact different (RunId.eq_of_text (String.le_antisymm after before))

end RunLog

/-- An empty database is brought to the tables of an empty log. -/
theorem SqlStore.KeptAt.migrate {path : Path} {tree : Tree} (empty : KeptAt path .empty tree) :
    KeptAt path (ofLog []) (migrate path Migration.latestVersion tree).2 := by
  have applied : Migration.apply Migration.latestVersion .empty = (.ok (), ofLog []) := by decide
  have stays := (empty.use (Migration.apply Migration.latestVersion)).2
  rw [applied] at stays
  rw [SqlStore.migrate, if_neg (by decide), withDatabase_eq]
  exact stays

/-- Whether tables are kept in step with a log. -/
def SqlStore.InStep (log : List RunRecord) (database : Database) : Prop :=
  RunLog.Orderly Storable log ∧ database = ofLog log

theorem SqlStore.tables_agree {calls : List LedgerCall} (storable : ∀ call ∈ calls, RunLog.Brings Storable call) :
    (tables.serveAll (ofLog []) calls).1.map (·.outlined) = (RunLog.store.serveAll [] calls).1.map (·.outlined) := by
  have start : InStep [] (ofLog []) := ⟨RunLog.orderly_nil, rfl⟩
  refine (RunStore.serveAll_alike InStep ?_ storable start).1
  intro call database log brings together
  obtain ⟨orderly, rfl⟩ := together
  have allowed (nonce : UInt32) (record : RunRecord) (same : call = .append nonce record) : Storable record :=
    brings record (same ▸ rfl)
  obtain ⟨answers, after⟩ := serve_ofLog orderly.all orderly.distinct call allowed
  exact ⟨answers, orderly.serve call brings, after⟩

/-- Whether the files of a ledger are kept in step with a log. -/
def FileStore.InStep (root : Path) (log : List RunRecord) (tree : Tree) : Prop :=
  RunLog.Orderly (fun record => record.isPrintable = true) log ∧ KeptIn root log tree

theorem FileStore.files_agree {root : Path} {tree : Tree} {calls : List LedgerCall} (fresh : Fresh root tree)
    (printable : ∀ call ∈ calls, RunLog.Brings (fun record => record.isPrintable = true) call) :
    ((store root).serveAll tree calls).1.map (·.outlined) = (RunLog.store.serveAll [] calls).1.map (·.outlined) := by
  have start : InStep root [] tree := ⟨RunLog.orderly_nil, fresh.keptIn⟩
  refine (RunStore.serveAll_alike (InStep root) ?_ printable start).1
  intro call tree log brings together
  obtain ⟨orderly, kept⟩ := together
  have allowed (nonce : UInt32) (record : RunRecord) (same : call = .append nonce record) : record.isPrintable = true :=
    brings record (same ▸ rfl)
  obtain ⟨answers, after⟩ := kept.serve orderly.all orderly.distinct call allowed
  exact ⟨congrArg LedgerAnswer.outlined answers, orderly.serve call brings, after⟩

/-- Two ledgers that are empty at first, one in the files of a directory and one in the tables of a database,
answer any calls as the log does that starts with nothing: but for the wording of faults, they answer alike. The
log refuses a record for a run that it holds, and for no other reason; the record of a run is the first one that
was appended for it; and records are listed by their ids, each one greater than those that follow. -/
theorem ledgers_agree {root path : Path} {files rows : Tree} {calls : List LedgerCall}
    (storable : ∀ call ∈ calls, RunLog.Brings SqlStore.Storable call) (fresh : FileStore.Fresh root files)
    (empty : SqlStore.KeptAt path .empty rows) :
    let migrated := (SqlStore.migrate path Migration.latestVersion rows).2
    let log := (RunLog.store.serveAll [] calls).2
    ((FileStore.store root).serveAll files calls).1.map (·.outlined) =
      (RunLog.store.serveAll [] calls).1.map (·.outlined) ∧
    ((SqlStore.store path).serveAll migrated calls).1.map (·.outlined) =
      (RunLog.store.serveAll [] calls).1.map (·.outlined) ∧
    (log.map (·.runId)).Nodup ∧
    (∀ runId, RunLog.find? runId log = RunLog.find? runId (calls.filterMap LedgerCall.record?)) ∧
    (∀ runId, RunLog.holds runId log = RunLog.holds runId (calls.filterMap LedgerCall.record?)) ∧
    ∀ filter limit, (RunLog.recent filter limit log).Pairwise (fun first second => second.runId.text < first.runId.text) := by
  intro migrated log
  have printable : ∀ call ∈ calls, RunLog.Brings (fun record => record.isPrintable = true) call := by
    intro call found record brought
    exact (storable call found record brought).1
  have orderly : RunLog.Orderly SqlStore.Storable log :=
    RunLog.orderly_serveAll RunLog.orderly_nil storable
  have first (runId : RunId) : RunLog.find? runId log = RunLog.find? runId (calls.filterMap LedgerCall.record?) :=
    RunLog.find?_serveAll [] calls runId
  refine ⟨FileStore.files_agree fresh printable, ?_, orderly.distinct, first, ?_, RunLog.falling_recent orderly.distinct⟩
  · rw [(empty.migrate.serveAll calls).1]
    exact SqlStore.tables_agree storable
  · intro runId
    rw [← RunLog.find?_isSome, first, RunLog.find?_isSome]

/-- The record of a run that left two artifacts. -/
def sample : RunRecord where
  runId := ⟨"20260101T000000Z-0001", by rfl⟩
  project := "alpha"
  action := "deploy"
  startedAt := .newYear 0
  finishedAt := .newYear 2000000000
  status := .success
  exitCode := some 0
  duration := 2000
  errorSummary := none
  artifactPaths := [.ofText "b.log", .ofText "a.log"]

/-- The working directory is where its path leads. -/
theorem leads_work (tree : Tree) (here : tree.find? [] = some (.directory 0))
    (work : tree.find? ["work"] = some (.directory 0)) :
    tree.LeadsTo (.ofText "/work") ["work"] ∧ tree.locate (.ofText "/work") = .ok ["work"] := by
  have walked : tree.walk linkLimit [] ["work"] = .ok ["work"] :=
    walk_single here rfl (by decide) (noLink_of work rfl)
  exact ⟨⟨walked, .directory 0, work, rfl⟩, walked⟩

theorem isDirectory_work (tree : Tree) (here : tree.find? [] = some (.directory 0))
    (work : tree.find? ["work"] = some (.directory 0)) : tree.isDirectory (.ofText "/work") = true :=
  isDirectory_iff.mpr ⟨["work"], .directory 0, (leads_work tree here work).2, work, rfl⟩

/-- The working directory is an empty ledger of files. -/
theorem fresh_work : FileStore.Fresh (.ofText "/work") Tree.empty := by
  obtain ⟨leads, located⟩ := leads_work Tree.empty rfl rfl
  have is := isDirectory_work Tree.empty rfl rfl
  refine ⟨⟨by decide, by decide⟩, ?_, ?_⟩
  · rw [makeDirectories_of_isDirectory is]
  · rw [makeDirectories_of_isDirectory is, list_of_leadsTo leads located]
    rfl

/-- A file that is not there is an empty database. -/
theorem opens_work : SqlStore.Opens (.ofText "runs.db") Tree.empty Tree.empty ["runs.db", "work"] .empty := by
  have located : Tree.empty.locate (.ofText "runs.db") = .ok ["runs.db", "work"] :=
    walk_single (show Tree.empty.find? ["work"] = some (.directory 0) from rfl) rfl (by decide) nofun
  refine ⟨.here rfl rfl, ?_⟩
  rw [SqlStore.openAt, located]
  rfl

theorem keptAt_work : SqlStore.KeptAt (.ofText "runs.db") .empty Tree.empty := ⟨_, _, opens_work⟩

theorem keptAt_put (database : Database) :
    SqlStore.KeptAt (.ofText "runs.db") database (Tree.empty.put ["runs.db", "work"] (.database database)) :=
  ⟨_, _, opens_work.put database⟩

theorem storable_sample : SqlStore.Storable sample := ⟨by decide +kernel, by decide⟩

theorem ledgers_agree_sample :
    let calls : List LedgerCall := [.append 1 sample, .append 2 sample, .get sample.runId, .listRecent .everything 5]
    let answers : List (LedgerAnswer (FaultKind × Option RunId)) :=
      [.appended (.ok ()), .appended (.error (.storageFailure, some sample.runId)), .got (.ok (some sample)),
        .listed (.ok [sample])]
    (∀ call ∈ calls, RunLog.Brings SqlStore.Storable call) ∧
    FileStore.Fresh (.ofText "/work") Tree.empty ∧
    SqlStore.KeptAt (.ofText "runs.db") .empty Tree.empty ∧
    ((FileStore.store (.ofText "/work")).serveAll Tree.empty calls).1.map (·.outlined) = answers ∧
    ((SqlStore.store (.ofText "runs.db")).serveAll (SqlStore.migrate (.ofText "runs.db")
      Migration.latestVersion Tree.empty).2 calls).1.map
      (·.outlined) = answers := by
  intro calls answers
  have storable : ∀ call ∈ calls, RunLog.Brings SqlStore.Storable call := by
    intro call found record brought
    have among : record ∈ calls.filterMap LedgerCall.record? := List.mem_filterMap.mpr ⟨call, found, brought⟩
    have same : record = sample := by simpa [calls, LedgerCall.record?] using among
    rw [same]
    exact storable_sample
  have logged : (RunLog.store.serveAll [] calls).1.map (·.outlined) = answers := by
    simp [calls, answers, RunStore.serveAll, RunStore.serve, RunLog.store, RunLog.append, RunLog.holds, RunLog.find?,
      RunLog.recent, RunFilter.everything, RunFilter.keeps, LedgerAnswer.outlined, outline, Fault.kind, Fault.run?,
      Except.mapError]
  obtain ⟨files, rows, _⟩ := ledgers_agree storable fresh_work keptAt_work
  exact ⟨storable, fresh_work, keptAt_work, files.trans logged, rows.trans logged⟩

/-- The record of a run that left an artifact whose name is not UTF-8. -/
def mangled : RunRecord := { sample with artifactPaths := [⟨[0xFF]⟩] }

theorem keepable_mangled : SqlStore.Keepable mangled :=
  ⟨storable_sample.keepable.timed, storable_sample.keepable.short⟩

theorem unspelled_mangled : mangled.artifactPaths.all (·.isText) = false := by decide +kernel

/-- Tables keep another path in place of one that is not UTF-8. -/
theorem asText_mangled : SqlStore.asText mangled ≠ mangled := by
  intro same
  have isText : (SqlStore.asText mangled).artifactPaths.all (·.isText) = true := SqlStore.isText_asText
  rw [same, unspelled_mangled] at isText
  cases isText

/-- The working directory, by a path that is nearly as long as a path may be. -/
def farWork : Path := ⟨dotted "/work" 2040⟩

theorem farWork_text : farWork.text = dotted "/work" 2040 := rfl

theorem length_farWork : farWork.text.length = 4085 := by
  rw [farWork_text, length_dotted]
  rfl

theorem farWork_noNull : 0 ∉ farWork.text := by
  intro inside
  rcases mem_dotted inside with before | behind
  · exact absurd before (by decide)
  · exact absurd behind (by decide)

theorem locate_farWork {tree : Tree} (here : tree.find? [] = some (.directory 0))
    (work : tree.find? ["work"] = some (.directory 0)) :
    tree.locate farWork = .ok ["work"] :=
  locate_dotted work rfl (by decide) (by decide) (leads_work tree here work).2

theorem far_work : Tree.empty.isDirectory farWork = true ∧ Tree.empty.list farWork = .ok [] := by
  have far : Tree.empty.locate farWork = .ok ["work"] := locate_farWork rfl rfl
  have is : Tree.empty.isDirectory farWork = true := isDirectory_iff.mpr ⟨["work"], .directory 0, far, rfl, rfl⟩
  obtain ⟨outer, leads, locatedThere⟩ := leadsTo_of_isDirectory is
  rw [far] at locatedThere
  cases locatedThere
  exact ⟨is, (list_of_leadsTo leads far).trans rfl⟩

/-- A ledger of files with the empty path takes a record, and lists none. -/
theorem ledger_unnamed : (FileStore.append .empty 1 sample Tree.empty).1 = .ok () ∧
    ∀ filter limit tree, FileStore.listRecent .empty filter limit tree = .ok [] := by
  constructor
  · have roomy : FileStore.Roomy .empty := ⟨by decide, by decide⟩
    have leads : Tree.empty.LeadsTo .empty ["work"] := ⟨walk_nil _ _ _, .directory 0, rfl, rfl⟩
    have staged := FileStore.vacancy_stagingPath leads (roomy.fits_staging sample.runId 1) rfl
    have vacant := FileStore.vacancy_recordPath leads (roomy.fits_record sample.runId) rfl
    exact (FileStore.append_new rfl staged vacant).1.mpr storable_sample.1
  · intro filter limit tree
    cases limit <;> rfl

/-- Two ledgers that are empty at first need not answer alike: one in files refuses a path that is not UTF-8,
while one in tables keeps another path in its place; one in files refuses every record where its own path leaves
no room, and lists none where that path is empty. -/
theorem ledgers_disagree :
    let calls : List LedgerCall := [.append 1 mangled, .get mangled.runId]
    let migrated := (SqlStore.migrate (.ofText "runs.db") Migration.latestVersion Tree.empty).2
    SqlStore.Keepable mangled ∧ SqlStore.asText mangled ≠ mangled ∧
    ((FileStore.store (.ofText "/work")).serveAll Tree.empty calls).1.map (·.outlined) =
      [.appended (.error (.internal, some mangled.runId)), .got (.ok none)] ∧
    ((SqlStore.store (.ofText "runs.db")).serveAll migrated calls).1.map (·.outlined) =
      [.appended (.ok ()), .got (.ok (some (SqlStore.asText mangled)))] ∧
    (Tree.empty.list farWork = .ok [] ∧
      (FileStore.append farWork 1 sample Tree.empty).1 =
        .error (.fileStore "append" .nameTooLong (some sample.runId)) ∧
      ((SqlStore.store (.ofText "runs.db")).append 1 sample migrated).1 = .ok ()) ∧
    (FileStore.append .empty 1 sample Tree.empty).1 = .ok () ∧
    ∀ filter limit tree, FileStore.listRecent .empty filter limit tree = .ok [] := by
  intro calls migrated
  have storable : SqlStore.Storable (SqlStore.asText mangled) := SqlStore.storable_asText.mpr keepable_mangled
  have kept := keptAt_work.migrate
  refine ⟨keepable_mangled, asText_mangled, ?_, ?_, ⟨far_work.2, ?_, ?_⟩, ledger_unnamed⟩
  · have is := isDirectory_work Tree.empty rfl rfl
    have unprintable : ¬mangled.isPrintable = true := by
      rw [RunRecord.isPrintable, unspelled_mangled, Bool.and_false]
      decide
    have refused := FileStore.append_unprintable 1 (makeDirectories_of_isDirectory is) unprintable
    have missing : FileStore.get (.ofText "/work") mangled.runId Tree.empty = .ok none :=
      fresh_work.keptIn.get (fun _ never => absurd never List.not_mem_nil) mangled.runId
    simp only [calls, RunStore.serveAll, RunStore.serve, FileStore.store, refused, missing]
    rfl
  · have spelled : SqlStore.tables.serveAll (SqlStore.ofLog []) calls =
        SqlStore.tables.serveAll (SqlStore.ofLog []) [.append 1 (SqlStore.asText mangled), .get mangled.runId] := by
      simp only [calls, RunStore.serveAll, RunStore.serve, SqlStore.tables, SqlStore.append_asText]
      rfl
    rw [(kept.serveAll calls).1, spelled, SqlStore.tables_agree]
    · simp [RunStore.serveAll, RunStore.serve, RunLog.store, RunLog.append, RunLog.holds, RunLog.find?,
        LedgerAnswer.outlined, Except.mapError, SqlStore.asText]
    · intro call among record brought
      simp only [List.mem_cons, List.not_mem_nil, or_false] at among
      rcases among with rfl | rfl
      · cases brought
        exact storable
      · cases brought
  · have long : longestPath < farWork.text.length + (sample.runId.text.toList.length + 14) := by
      rw [length_farWork]
      decide
    rw [FileStore.append_cramped (makeDirectories_of_isDirectory far_work.1) storable_sample.1 farWork_noNull long]
  · rw [SqlStore.append_eq, (kept.use _).1, SqlStore.append_ofLog [] storable_sample.keepable]
    rfl

end SingleFlight.Ledger
