import SingleFlight.Proofs.Rfc3339Text
import SingleFlight.Proofs.Rows

/-!
The tables that a ledger fills by itself. They hold a row for each record of a log, and the paths of its
artifacts; what is read from them is what the log holds.
-/

namespace SingleFlight.Ledger.SqlStore

open Database Text Time

variable {record : RunRecord} {log : List RunRecord} {runId : RunId}

/-- Whether a record can be put into tables at all. -/
structure Keepable (record : RunRecord) : Prop where
  timed : record.isTimed = true
  short : record.duration.toNat ≤ greatestInteger

instance (record : RunRecord) : Decidable (Keepable record) :=
  decidable_of_iff (record.isTimed = true ∧ record.duration.toNat ≤ greatestInteger)
    ⟨fun both => ⟨both.1, both.2⟩, fun keepable => ⟨keepable.timed, keepable.short⟩⟩

/-- Whether a record can be put into tables, and into a file as well. -/
def Storable (record : RunRecord) : Prop := record.isPrintable = true ∧ record.duration.toNat ≤ greatestInteger

instance (record : RunRecord) : Decidable (Storable record) :=
  inferInstanceAs (Decidable (record.isPrintable = true ∧ record.duration.toNat ≤ greatestInteger))

/-- A record with its paths as a table keeps them, with U+FFFD for what is no UTF-8. -/
def asText (record : RunRecord) : RunRecord :=
  { record with artifactPaths := record.artifactPaths.map fun path => .ofText path.shown }

/-- Paths that are texts are kept as they are. -/
theorem asText_of_isText (isText : ∀ path ∈ record.artifactPaths, path.isText = true) : asText record = record := by
  have same : record.artifactPaths.map (fun path => Path.ofText path.shown) = record.artifactPaths.map id := by
    apply List.map_congr_left
    intro path among
    rw [Path.ofText, Path.shown, OsText.ofString_shown (isText path among), id]
  rw [asText, same, List.map_id]

theorem isText_asText : (asText record).artifactPaths.all (·.isText) = true := by
  rw [asText, List.all_map, List.all_eq_true]
  exact fun path _ => OsText.isText_ofString path.shown

/-- What a table keeps of a record is a record that a file can keep too. -/
theorem storable_asText : Storable (asText record) ↔ Keepable record := by
  have printable : (asText record).isPrintable = record.isTimed := by
    rw [RunRecord.isPrintable, isText_asText, Bool.and_true]
    rfl
  rw [Storable, printable]
  exact ⟨fun both => ⟨both.1, both.2⟩, fun keepable => ⟨keepable.timed, keepable.short⟩⟩

theorem Storable.asText_eq (storable : Storable record) : asText record = record := by
  obtain ⟨_, isText⟩ := Bool.and_eq_true_iff.mp storable.1
  exact asText_of_isText (List.all_eq_true.mp isText)

theorem Storable.keepable (storable : Storable record) : Keepable record :=
  ⟨(Bool.and_eq_true_iff.mp storable.1).1, storable.2⟩

/-- The rows of a record are those of what a table keeps of it. -/
theorem pathRows_asText (record : RunRecord) : pathRows (asText record) = pathRows record := by
  rw [pathRows, pathRows, asText, List.zipIdx_map, List.map_map]
  apply List.map_congr_left
  intro entry _
  simp [Path.shown, Path.ofText]

theorem append_asText (record : RunRecord) (database : Database) :
    append (asText record) database = append record database := by
  have same : insertRecord (asText record) = insertRecord record := by
    funext database
    rw [insertRecord_eq, insertRecord_eq, pathRows_asText]
    rfl
  rw [append, append, same]

theorem insertRecord_of_not_keepable (unkeepable : ¬Keepable record) (database : Database) :
    ∃ failure, insertRecord record database = .error failure := by
  rw [insertRecord_eq]
  by_cases timed : record.isTimed = true
  · have long : greatestInteger < record.duration.toNat := Nat.lt_of_not_le fun short => unkeepable ⟨timed, short⟩
    exact ⟨_, by rw [timed, if_neg (by decide), if_pos long]⟩
  · exact ⟨_, if_pos (by simpa using timed)⟩

/-- A record without the paths of its artifacts, as a row of its own spells it. -/
def bare (record : RunRecord) : RunRecord := { record with artifactPaths := [] }

theorem Storable.bare (storable : Storable record) : Storable (bare record) := by
  refine ⟨?_, storable.2⟩
  rw [RunRecord.isPrintable, SqlStore.bare, List.all_nil, Bool.and_true]
  exact storable.keepable.timed

/-- The database that a log is kept in. -/
def ofLog (log : List RunRecord) : Database where
  versions := some [1, 2]
  runs := some (log.map runRow)
  paths := some (log.flatMap pathRows)
  hasActionIndex := true
  hasProjectIndex := true

theorem ready_ofLog (log : List RunRecord) : ready (ofLog log) = (.ok (), ofLog log) := rfl

theorem time?_text {time : Timestamp} (printable : time.isPrintable = true) : time? time.text = .ok time := by
  rw [time?, Timestamp.ofText?_text printable]

theorem exitCode?_map (code : Option Int32) : exitCode? (code.map fun code => .integer code.toInt) = .ok code := by
  cases code with
  | none => rfl
  | some code =>
    have low := Int32.le_toInt code
    have high := Int32.toInt_lt code
    have within : -2147483648 ≤ code.toInt ∧ code.toInt < 2147483648 := ⟨by omega, by omega⟩
    simp [exitCode?, integer?, bind, Except.bind, within, Int32.ofInt_toInt]

theorem decode_runRow (storable : Storable record) : decode (runRow record) = .ok (bare record) := by
  obtain ⟨timed, short⟩ := storable.keepable
  rw [RunRecord.isTimed, Bool.and_eq_true] at timed
  have exitCode := exitCode?_map record.exitCode
  have id : RunId.ofText? record.runId.text = some record.runId := dif_pos record.runId.valid
  have positive : ¬((record.duration.toNat : Int) < 0) := by omega
  have errorSummary : errorSummary? (record.errorSummary.map fun text : String => .text text) =
      .ok record.errorSummary := by
    cases record.errorSummary with
    | none => rfl
    | some text => simp [errorSummary?, bind, Except.bind, pure, Except.pure]
  simp [decode, runRow, key?, integer?, bind, Except.bind, exitCode, id, RunStatus.ofName?_name, errorSummary,
    time?_text timed.1, time?_text timed.2, positive, bare]

/-- The paths of a run among those of all. -/
theorem filter_flatMap (log : List RunRecord) (runId : RunId) :
    (log.flatMap pathRows).filter (·.runId = (runId.text : TextCell)) =
      (log.filter (·.runId = runId)).flatMap pathRows := by
  induction log with
  | nil => rfl
  | cons first rest ih =>
    rw [List.flatMap_cons, List.filter_append, ih]
    by_cases same : first.runId = runId
    · rw [List.filter_cons_of_pos (by simpa using same), List.flatMap_cons, List.filter_eq_self.mpr]
      intro row found
      obtain ⟨_, _, rfl⟩ := List.mem_map.mp found
      simp [same]
    · rw [List.filter_cons_of_neg (by simpa using same), List.filter_eq_nil_iff.mpr, List.nil_append]
      intro row found
      obtain ⟨_, _, rfl⟩ := List.mem_map.mp found
      simp only [decide_eq_true_eq]
      intro sameText
      exact same (TextCell.ofRunId_inj.mp sameText)

/-- The paths of a record are put in at rising positions. -/
theorem sorted_pathRows (record : RunRecord) :
    (pathRows record).Pairwise (fun first second => NumberCell.isAtMost first.position second.position = true) := by
  rw [pathRows_eq, List.pairwise_iff_getElem]
  intro first second firstIn secondIn before
  rw [List.getElem_mapIdx, List.getElem_mapIdx, NumberCell.isAtMost_integer]
  omega

theorem mapM_decodePath (record : RunRecord) :
    (pathRows record).mapM decodePath = .ok (asText record).artifactPaths := by
  have decoded (entry : Path × Nat) :
      decodePath ⟨record.runId.text, .integer entry.2, entry.1.shown⟩ = pure (.ofText entry.1.shown) := by
    rw [decodePath, text?_text]
    rfl
  have each : decodePath ∘ (fun entry : Path × Nat => (⟨record.runId.text, .integer entry.2,
      entry.1.shown⟩ : PathRow)) =
      fun entry => pure (.ofText entry.1.shown) := funext decoded
  have paths :=
    congrArg (List.map fun path : Path => Path.ofText path.shown) (List.zipIdx_map_fst 0 record.artifactPaths)
  rw [List.map_map] at paths
  rw [pathRows, List.mapM_map, each, List.mapM_pure]
  exact congrArg Except.ok paths

theorem withPaths_ofLog (distinct : (log.map (·.runId)).Nodup) (recordIn : record ∈ log)
    (storable : Storable record) :
    withPaths (ofLog log) (bare record) = .ok record := by
  have loaded : loadPaths (ofLog log) record.runId = .ok record.artifactPaths := by
    have own : (log.flatMap pathRows).filter (·.runId = (record.runId.text : TextCell)) = pathRows record := by
      rw [filter_flatMap, RunLog.filter_runId distinct recordIn, List.flatMap_singleton]
    rw [← storable.asText_eq, ← mapM_decodePath record, storable.asText_eq,
      ← List.mergeSort_of_pairwise (sorted_pathRows record), ← own]
    rfl
  change (loadPaths (ofLog log) record.runId >>= fun paths => pure { bare record with artifactPaths := paths }) = _
  rw [loaded]
  rfl

theorem find_ofLog (storable : ∀ record ∈ log, Storable record) (distinct : (log.map (·.runId)).Nodup) (runId : RunId) :
    find runId (ofLog log) = .ok (RunLog.find? runId log) := by
  have first : (log.map runRow).find? (·.runId = some ↑runId.text) = (RunLog.find? runId log).map runRow := by
    have same : (fun record : RunRecord => decide ((runRow record).runId = some ↑runId.text)) =
        fun record => decide (record.runId = runId) := by
      funext record
      rw [decide_eq_decide, runRow, Option.some.injEq, TextCell.ofRunId_inj]
    rw [List.find?_map, RunLog.find?, ← same]
    rfl
  have there : runRows (ofLog log) = .ok (log.map runRow) := rfl
  unfold find
  rw [there]
  simp only [bind, Except.bind]
  rw [first]
  cases found : RunLog.find? runId log with
  | none => rfl
  | some record =>
    have recordIn := List.mem_of_find?_eq_some found
    simp only [Option.map_some, decode_runRow (storable record recordIn),
      withPaths_ofLog distinct recordIn (storable record recordIn), pure,
      Except.pure]

/-- A new record is put into both tables; one of a run that is there is refused by the first. -/
theorem append_ofLog (log : List RunRecord) (keepable : Keepable record) : append record (ofLog log) =
    if RunLog.holds record.runId log then (.error (duplicateKey "run_records.run_id"), ofLog log)
    else (.ok (), ofLog (log ++ [record])) := by
  have held : (ofLog log).hasRun record.runId.text = RunLog.holds record.runId log := by
    rw [Bool.eq_iff_iff, RunLog.holds_iff]
    simp only [hasRun, ofLog, Database.runRows, Option.getD_some, List.any_map, List.any_eq_true, Function.comp_apply,
      runRow, decide_eq_true_eq, Option.some.injEq, List.mem_map, TextCell.ofRunId_inj]
  rw [append, ready_ofLog]
  dsimp only
  by_cases known : RunLog.holds record.runId log = true
  · have refused : (ofLog log).insertRun (runRow record) = .error (duplicateKey "run_records.run_id") := by
      unfold insertRun
      exact if_pos (held.trans known)
    rw [if_pos known, insertRecord_eq, keepable.timed, if_neg (by decide),
      if_neg (Nat.not_lt.mpr keepable.short), refused]
    rfl
  · have absent : (ofLog log).hasRun record.runId.text = false := by
      rw [held]
      simpa using known
    have unclaimed : ∀ row ∈ log.flatMap pathRows, row.runId ≠ record.runId.text := by
      intro row found same
      obtain ⟨other, otherIn, rowIn⟩ := List.mem_flatMap.mp found
      obtain ⟨_, _, rfl⟩ := List.mem_map.mp rowIn
      apply known
      rw [RunLog.holds_iff]
      exact List.mem_map.mpr ⟨other, otherIn, TextCell.ofRunId_inj.mp same⟩
    rw [if_neg known, insertRecord_of keepable.timed keepable.short rfl rfl absent unclaimed]
    simp only [ofLog, List.map_append, List.flatMap_append, List.map_cons, List.map_nil, List.flatMap_singleton]

/-- What tables keep of a new record is added to their log. -/
theorem append_new_ofLog (keepable : Keepable record) (new : RunLog.holds record.runId log = false) :
    append record (ofLog log) = (.ok (), ofLog (log ++ [asText record])) := by
  have taken := append_ofLog log (storable_asText.mpr keepable).keepable
  rw [append_asText] at taken
  rw [taken]
  exact if_neg (by simp [asText, new])

/-- The record that a row stands for, if it can be read. -/
def read? (row : RunRow) : Option RunRecord := (decode row).toOption

theorem read?_iff {row : RunRow} : read? row = some record ↔ decode row = .ok record := by
  unfold read?
  cases decode row <;> simp [Except.toOption]

theorem read?_eq_none {row : RunRow} : read? row = none ↔ ∀ record, decode row ≠ .ok record := by
  unfold read?
  cases decode row <;> simp [Except.toOption]

section Search

variable {filter : RunFilter} {limit : Nat} {rest : List RunRow} {row : RunRow}

/-- Whether a search through rows meets one that it cannot read before it has found enough. -/
def Stops (filter : RunFilter) (limit : Nat) (rows : List RunRow) : Prop :=
  ∃ before row after, rows = before ++ row :: after ∧ read? row = none ∧
    ((before.filterMap read?).filter filter.keeps).length < limit

theorem not_stops_nil : ¬Stops filter limit [] := by
  rintro ⟨before, row, after, parts, _⟩
  cases before <;> cases parts

theorem stops_of_unread (unread : read? row = none) :
    Stops filter (limit + 1) (row :: rest) :=
  ⟨[], row, rest, rfl, unread, Nat.succ_pos limit⟩

theorem stops_cons_iff (read : read? row = some record) :
    Stops filter (limit + 1) (row :: rest) ↔ Stops filter (if filter.keeps record then limit else limit + 1) rest := by
  have count (before : List RunRow) : (((row :: before).filterMap read?).filter filter.keeps).length < limit + 1 ↔
      ((before.filterMap read?).filter filter.keeps).length < if filter.keeps record then limit else limit + 1 := by
    rw [List.filterMap_cons_some read, List.filter_cons]
    split
    next => rw [List.length_cons, Nat.add_lt_add_iff_right]
    next => rfl
  constructor
  · rintro ⟨before, stopped, after, parts, unread, few⟩
    cases before with
    | nil =>
      cases parts
      rw [read] at unread
      cases unread
    | cons first others =>
      cases parts
      exact ⟨others, stopped, after, rfl, unread, (count others).mp few⟩
  · rintro ⟨before, stopped, after, rfl, unread, few⟩
    exact ⟨row :: before, stopped, after, rfl, unread, (count before).mpr few⟩

/-- A search either fails at a row that it cannot read, or finds what can be read, up to the limit. -/
theorem collect_cases (filter : RunFilter) (limit : Nat) (rows : List RunRow) :
    (Stops filter limit rows ∧ ∃ failure, collect filter limit rows = .error failure) ∨
      (¬Stops filter limit rows ∧
        collect filter limit rows = .ok (((rows.filterMap read?).filter filter.keeps).take limit)) := by
  fun_induction collect filter limit rows with
  | case1 rows =>
    refine .inr ⟨?_, rfl⟩
    rintro ⟨_, _, _, _, _, few⟩
    exact Nat.not_lt_zero _ few
  | case2 => exact .inr ⟨not_stops_nil, rfl⟩
  | case3 limit row rest failure failed =>
    have unread : read? row = none := by rw [read?, failed]; rfl
    exact .inl ⟨stops_of_unread unread, failure, rfl⟩
  | case4 limit row rest found decoded keeps ih =>
    have read : read? row = some found := read?_iff.mpr decoded
    rw [stops_cons_iff read, if_pos keeps, List.filterMap_cons_some read, List.filter_cons_of_pos keeps, List.take_succ_cons]
    rcases ih with ⟨stops, failure, failed⟩ | ⟨goesOn, collected⟩
    · exact .inl ⟨stops, failure, by rw [failed]; rfl⟩
    · exact .inr ⟨goesOn, by rw [collected]; rfl⟩
  | case5 limit row rest found decoded notKept ih =>
    have read : read? row = some found := read?_iff.mpr decoded
    rwa [stops_cons_iff read, if_neg notKept, List.filterMap_cons_some read, List.filter_cons_of_neg notKept]

/-- Where all rows can be read, the search goes on until enough records are found. -/
theorem collect_of_readable (filter : RunFilter) (limit : Nat) {rows : List RunRow}
    (readable : ∀ row ∈ rows, ∃ record, decode row = .ok record) :
    collect filter limit rows = .ok (((rows.filterMap read?).filter filter.keeps).take limit) := by
  rcases collect_cases filter limit rows with ⟨⟨before, row, after, rfl, unread, _⟩, _⟩ | ⟨_, collected⟩
  · obtain ⟨record, read⟩ := readable row (List.mem_append_right before List.mem_cons_self)
    exact absurd read (read?_eq_none.mp unread record)
  · exact collected

end Search

theorem collect_map (filter : RunFilter) (limit : Nat) {records : List RunRecord} (storable : ∀ record ∈ records, Storable record) :
    collect filter limit (records.map runRow) = .ok (((records.filter filter.keeps).take limit).map bare) := by
  have readable : ∀ row ∈ records.map runRow, ∃ record, decode row = .ok record := by
    rw [List.forall_mem_map]
    exact fun record recordIn => ⟨bare record, decode_runRow (storable record recordIn)⟩
  have read : (records.map runRow).filterMap read? = records.map bare := by
    rw [List.filterMap_map, ← List.filterMap_eq_map]
    apply List.filterMap_congr
    intro record recordIn
    exact read?_iff.mpr (decode_runRow (storable record recordIn))
  rw [collect_of_readable filter limit readable, read, List.filter_map, List.map_take]
  rfl

theorem mapM_withPaths (storable : ∀ record ∈ log, Storable record) (distinct : (log.map (·.runId)).Nodup)
    {records : List RunRecord} (all : ∀ record ∈ records, record ∈ log) :
    (records.map bare).mapM (withPaths (ofLog log)) = .ok records := by
  rw [List.mapM_map]
  have each : ∀ record ∈ records, (withPaths (ofLog log) ∘ bare) record = .ok (id record) := by
    intro record recordIn
    exact withPaths_ofLog distinct (all record recordIn) (storable record (all record recordIn))
  rw [mapM_eq_map each, List.map_id]

/-- Whether a record is of the project that is asked for, if one is. -/
def isOfProject (filter : RunFilter) (record : RunRecord) : Bool := filter.project.all (· == record.project)

/-- Whether a row is of the project that is asked for, if one is. -/
def isRowOfProject (filter : RunFilter) (row : RunRow) : Bool :=
  filter.project.all fun project : Project => row.project = .text project

theorem isRowOfProject_runRow (filter : RunFilter) : isRowOfProject filter ∘ runRow = isOfProject filter := by
  funext record
  rw [Function.comp_apply, isRowOfProject, isOfProject]
  cases filter.project with
  | none => rfl
  | some project =>
    rw [Option.all_some, Option.all_some, Bool.eq_iff_iff, decide_eq_true_eq, beq_iff_eq, runRow,
      TextCell.text.injEq, Utf8.ofString_inj]
    exact eq_comm

/-- Rows are in the order of the records that they spell. -/
theorem comesFirst_runRow (first second : RunRecord) :
    comesFirst (runRow first) (runRow second) = RunLog.comesFirst first second := by
  rw [Bool.eq_iff_iff, RunLog.comesFirst, decide_eq_true_eq]
  exact TextCell.isAtMost_runId

theorem recent_ofLog (storable : ∀ record ∈ log, Storable record) (distinct : (log.map (·.runId)).Nodup) (filter : RunFilter)
    (limit : Nat) : recent filter limit (ofLog log) = .ok (RunLog.recent filter limit log) := by
  have rows : ((log.map runRow).filter (isRowOfProject filter)).mergeSort comesFirst =
      ((log.filter (isOfProject filter)).mergeSort RunLog.comesFirst).map runRow := by
    rw [List.filter_map, isRowOfProject_runRow, List.map_mergeSort (s := comesFirst)]
    intro first _ second _
    exact (comesFirst_runRow first second).symm
  have picked : ((log.filter (isOfProject filter)).mergeSort RunLog.comesFirst).filter filter.keeps =
      (log.filter filter.keeps).mergeSort RunLog.comesFirst := by
    have distinctOfProject : ((log.filter (isOfProject filter)).map (·.runId)).Nodup :=
      distinct.sublist (List.filter_sublist.map _)
    rw [RunLog.filter_mergeSort distinctOfProject, List.filter_filter]
    congr 2
    funext record
    change (isOfProject filter record && filter.family.all (·.contains record.action) && isOfProject filter record) =
      (isOfProject filter record && filter.family.all (·.contains record.action))
    cases isOfProject filter record with
    | false => rfl
    | true => rw [Bool.and_true]
  have sortedStorable (record : RunRecord)
      (recordIn : record ∈ (log.filter (isOfProject filter)).mergeSort RunLog.comesFirst) : Storable record :=
    storable record (List.mem_filter.mp (List.mem_mergeSort.mp recordIn)).1
  have collected := collect_map filter limit sortedStorable
  rw [picked] at collected
  change (collect filter limit (((log.map runRow).filter (isRowOfProject filter)).mergeSort comesFirst) >>=
    fun found => found.mapM (withPaths (ofLog log))) = _
  rw [rows, collected]
  apply mapM_withPaths storable distinct
  intro record recordIn
  exact (List.mem_filter.mp (List.mem_mergeSort.mp (List.mem_of_mem_take recordIn))).1

/-- The tables of a log answer as the log does, and go on holding what it holds. -/
theorem serve_ofLog (storable : ∀ record ∈ log, Storable record) (distinct : (log.map (·.runId)).Nodup) (call : LedgerCall)
    (allowed : ∀ nonce record, call = .append nonce record → Storable record) :
    (tables.serve (ofLog log) call).1.outlined = (RunLog.store.serve log call).1.outlined ∧
      (tables.serve (ofLog log) call).2 = ofLog (RunLog.store.serve log call).2 := by
  cases call with
  | append nonce record =>
    have appended := append_ofLog log (allowed nonce record rfl).keepable
    rw [RunStore.serve, RunStore.serve, tables, RunLog.store]
    dsimp only
    rw [appended, RunLog.append]
    by_cases known : RunLog.holds record.runId log = true
    · rw [if_pos known, if_pos known]
      exact ⟨rfl, rfl⟩
    · rw [if_neg known, if_neg known]
      exact ⟨rfl, rfl⟩
  | get runId =>
    have there : query (find runId) (ofLog log) = (find runId (ofLog log), ofLog log) := rfl
    rw [RunStore.serve, RunStore.serve, tables, RunLog.store]
    dsimp only
    rw [there, find_ofLog storable distinct]
    exact ⟨rfl, rfl⟩
  | listRecent filter limit =>
    have there : query (recent filter limit) (ofLog log) = (recent filter limit (ofLog log), ofLog log) := rfl
    rw [RunStore.serve, RunStore.serve, tables, RunLog.store]
    dsimp only
    by_cases nothing : limit = 0
    · subst nothing
      rw [if_pos rfl]
      exact ⟨rfl, rfl⟩
    · rw [if_neg nothing, there, recent_ofLog storable distinct]
      exact ⟨rfl, rfl⟩

end SingleFlight.Ledger.SqlStore
