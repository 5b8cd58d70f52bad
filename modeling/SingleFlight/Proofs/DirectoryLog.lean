import SingleFlight.Proofs.Calls
import SingleFlight.Proofs.Filing

/-!
The directory that a ledger fills by itself. It holds a file for each record of a log and nothing else; what is
read from it is what the log holds.
-/

namespace SingleFlight

open Text

namespace Files.Tree

variable {tree : Tree} {outer : Location} {name : OsText} {path : Path}

/-- What stands below a location is among its children. -/
theorem find?_child (tree : Tree) (outer : Location) (name : OsText) :
    tree.find? (name :: outer) = ((tree.children outer).find? (·.1 = name)).map (·.2) := by
  unfold find? children
  induction tree.nodes with
  | nil => rfl
  | cons first rest ih =>
    obtain ⟨location, node⟩ := first
    rw [List.filterMap_cons]
    cases location with
    | nil =>
      rw [List.find?_cons_of_neg (by simp)]
      exact ih
    | cons firstName firstOuter =>
      by_cases here : firstOuter = outer
      · subst here
        dsimp only
        rw [if_pos rfl]
        by_cases same : firstName = name
        · subst same
          rw [List.find?_cons_of_pos (by simp), List.find?_cons_of_pos (by simp)]
          rfl
        · rw [List.find?_cons_of_neg (by simp [same]), List.find?_cons_of_neg (by simp [same])]
          exact ih
      · dsimp only
        rw [if_neg here, List.find?_cons_of_neg (by simp [here])]
        exact ih

theorem children_put (vacant : tree.find? (name :: outer) = none) (node : Node) :
    (tree.put (name :: outer) node).children outer = tree.children outer ++ [(name, node)] := by
  unfold children put
  dsimp only
  rw [others_of_vacant vacant, List.filterMap_append]
  simp

theorem list_of_leadsTo (leads : tree.LeadsTo path outer) (located : tree.locate path = .ok outer) :
    tree.list path = .ok ((tree.children outer).map (·.1)) := by
  obtain ⟨_, node, held, isDirectory⟩ := leads
  simp [list, entries, located, held, isDirectory, bind, Except.bind, pure, Except.pure]

theorem list_of_missing (absent : tree.open? path = .error .missing) : tree.list path = .error .missing := by
  unfold list entries
  unfold open? at absent
  cases located : tree.locate path with
  | error failure =>
    rw [located] at absent
    cases absent
    rfl
  | ok location =>
    rw [located] at absent
    cases held : tree.find? location with
    | none => simp [bind, Except.bind, held]
    | some node => simp [bind, Except.bind, held] at absent

end Files.Tree

namespace Ledger.FileStore

open Files Files.Tree

variable {root : Path} {log : List RunRecord} {record : RunRecord} {runId : RunId} {nonce : UInt32} {tree : Tree}
  {outer : Location}

/-- Whether there is room behind the path of a ledger for a slash and the longest name of a file in it. -/
structure Roomy (root : Path) : Prop where
  noNull : 0 ∉ root.text
  short : root.text.length + 143 ≤ longestPath

theorem Roomy.fits_staging (roomy : Roomy root) (runId : RunId) (nonce : UInt32) : Fits root (stagingName runId nonce) := by
  have size := (stagingName_named runId nonce).2.2
  have chars := (runId_chars runId).2.2
  have leadSize : (lead root).length ≤ root.text.length + 1 := by
    unfold lead
    split
    next => exact Nat.zero_le _
    next =>
      split
      next => exact Nat.le_succ _
      next =>
        rw [List.length_append]
        exact Nat.le_refl _
  have short := roomy.short
  exact ⟨roomy.noNull, by omega⟩

theorem Roomy.fits_record (roomy : Roomy root) (runId : RunId) : Fits root (recordName runId) :=
  fits_recordName runId 0 (roomy.fits_staging runId 0)

/-- The file of a run stands right in the directory of the ledger. -/
theorem Roomy.entry_record (roomy : Roomy root) (leads : tree.LeadsTo root outer) (runId : RunId) :
    tree.locateEntry (recordPath root runId) = .ok (some (recordName runId :: outer)) := by
  obtain ⟨plain, proper, _⟩ := recordName_named runId
  rw [recordPath_eq, locateEntry_join plain proper]
  exact ⟨roomy.fits_record runId, outer, leads, rfl⟩

/-- The run that the name of a record's file stands for. -/
theorem namedRun?_recordName (runId : RunId) : namedRun? (recordName runId) = some runId := by
  have stem : withoutEnding? ".json" (runId.text ++ ".json") = some runId.text := by
    unfold withoutEnding?
    rw [toList_recordText, if_pos (by simp), List.length_append, Nat.add_sub_cancel, List.take_left,
      String.ofList_toList]
  rw [namedRun?, recordName, OsText.text?_ofString, Option.bind_some, stem, Option.bind_some, RunId.ofText?,
    dif_pos runId.valid]

/-- The file of a record, by its name. -/
def recordEntry (record : RunRecord) : OsText × Node := (recordName record.runId, .file (payload record))

/-- Whether the files of a log are all that a directory holds. -/
structure Filed (root : Path) (log : List RunRecord) (outer : Location) (tree : Tree) : Prop where
  leads : tree.LeadsTo root outer
  located : tree.locate root = .ok outer
  children : tree.children outer = log.map recordEntry

namespace Filed

theorem isDirectory (filed : Filed root log outer tree) : tree.isDirectory root = true := by
  obtain ⟨_, node, held, isDirectory⟩ := filed.leads
  exact isDirectory_iff.mpr ⟨outer, node, filed.located, held, isDirectory⟩

theorem find?_record (filed : Filed root log outer tree) (runId : RunId) :
    tree.find? (recordName runId :: outer) = (RunLog.find? runId log).map fun record => .file (payload record) := by
  have same : (fun record : RunRecord => decide ((recordEntry record).1 = recordName runId)) =
      fun record => decide (record.runId = runId) := by
    funext record
    rw [decide_eq_decide]
    constructor
    · intro names
      exact recordName_injective names
    · intro ids
      rw [← ids]
      rfl
  rw [find?_child, filed.children, List.find?_map, RunLog.find?, ← same, Option.map_map]
  rfl

theorem find?_staging (filed : Filed root log outer tree) (runId : RunId) (nonce : UInt32) :
    tree.find? (stagingName runId nonce :: outer) = none := by
  rw [find?_child, filed.children, Option.map_eq_none_iff, List.find?_eq_none]
  intro entry found
  obtain ⟨record, _, rfl⟩ := List.mem_map.mp found
  simp only [decide_eq_true_eq]
  exact recordName_ne_stagingName runId nonce record.runId

theorem entry_record (filed : Filed root log outer tree) (roomy : Roomy root) (runId : RunId) :
    tree.locateEntry (recordPath root runId) = .ok (some (recordName runId :: outer)) :=
  roomy.entry_record filed.leads runId

theorem vacancy_staging (filed : Filed root log outer tree) (roomy : Roomy root) (runId : RunId) (nonce : UInt32) :
    tree.vacancy (stagingPath root runId nonce) = .ok (stagingName runId nonce :: outer) :=
  vacancy_stagingPath filed.leads (roomy.fits_staging runId nonce) (filed.find?_staging runId nonce)

theorem get (filed : Filed root log outer tree) (roomy : Roomy root) (printable : ∀ record ∈ log, record.isPrintable = true)
    (runId : RunId) : get root runId tree = .ok (RunLog.find? runId log) := by
  have held := filed.find?_record runId
  have located : tree.locate (recordPath root runId) = .ok (recordName runId :: outer) := by
    apply locate_of_locateEntry (filed.entry_record roomy runId)
    intro target
    rw [held]
    cases RunLog.find? runId log with
    | none => simp
    | some record => simp
  unfold FileStore.get
  cases found : RunLog.find? runId log with
  | none =>
    rw [found] at held
    have missing : tree.read (recordPath root runId) = .error .missing := by
      simp [Tree.read, open?, located, held, bind, Except.bind]
    rw [missing]
  | some record =>
    rw [found] at held
    have there : tree.read (recordPath root runId) = .ok (payload record) := by
      simp [Tree.read, open?, located, held, bind, Except.bind]
    have own : record.runId = runId := by simpa using List.find?_some found
    rw [there]
    dsimp only
    rw [decode?_payload (printable record (List.mem_of_find?_eq_some found))]
    dsimp only
    rw [if_pos own]

/-- The runs that are listed are those of the log. -/
theorem listedRuns (filed : Filed root log outer tree) : listedRuns root tree =
    .ok ((log.mergeSort RunLog.comesFirst).map (·.runId)) := by
  have names : (log.map recordEntry).map (·.1) = (log.map (·.runId)).map recordName := by
    rw [List.map_map, List.map_map]
    rfl
  have runs : ((log.map (·.runId)).map recordName).filterMap namedRun? = log.map (·.runId) := by
    have named : namedRun? ∘ recordName = some := funext namedRun?_recordName
    rw [List.filterMap_map, named, List.filterMap_some]
  unfold FileStore.listedRuns
  rw [list_of_leadsTo filed.leads filed.located, filed.children, names]
  dsimp only
  rw [runs, List.map_mergeSort (s := fun first second => decide (second.text ≤ first.text))]
  intro first _ second _
  rfl

theorem listRecent (filed : Filed root log outer tree) (roomy : Roomy root)
    (printable : ∀ record ∈ log, record.isPrintable = true) (distinct : (log.map (·.runId)).Nodup) (filter : RunFilter)
    (limit : Nat) : listRecent root filter limit tree = .ok (RunLog.recent filter limit log) := by
  have kept (record : RunRecord) (recordIn : record ∈ log) :
      kept? root filter tree record.runId = if filter.keeps record then some record else none := by
    unfold kept?
    rw [filed.get roomy printable record.runId, RunLog.find?_of_mem distinct recordIn]
  unfold FileStore.listRecent
  split
  next nothing =>
    rw [nothing]
    rfl
  next =>
    rw [filed.listedRuns]
    have picked : ((log.mergeSort RunLog.comesFirst).map (·.runId)).filterMap (kept? root filter tree) =
        (log.filter filter.keeps).mergeSort RunLog.comesFirst := by
      rw [List.filterMap_map, ← RunLog.filter_mergeSort distinct, ← List.filterMap_eq_filter]
      apply List.filterMap_congr
      intro record recordIn
      exact kept record (List.mem_mergeSort.mp recordIn)
    rw [Except.map, gather_eq, picked]
    rfl

/-- The record of a new run is filed next to the others; one of a run that is there is refused. -/
theorem append (filed : Filed root log outer tree) (roomy : Roomy root) (printable : record.isPrintable = true)
    (nonce : UInt32) : ∃ after, Filed root (RunLog.append record log).2 outer after ∧
      append root nonce record tree = ((RunLog.append record log).1, after) := by
  have made : tree.makeDirectories root = (.ok (), tree) := makeDirectories_of_isDirectory filed.isDirectory
  have entry := filed.entry_record roomy record.runId
  have held := filed.find?_record record.runId
  rw [append_eq made printable (filed.vacancy_staging roomy record.runId nonce)]
  by_cases known : RunLog.holds record.runId log = true
  · have occupied : tree.vacancy (recordPath root record.runId) = .error .exists := by
      rw [← RunLog.find?_isSome] at known
      unfold vacancy
      rw [entry]
      simp [bind, Except.bind, held, known]
    rw [occupied, RunLog.append, if_pos known]
    exact ⟨tree, filed, rfl⟩
  · have nothing : tree.find? (recordName record.runId :: outer) = none := by
      rw [← RunLog.find?_isSome, Option.not_isSome_iff_eq_none] at known
      rw [held, known]
      rfl
    rw [vacancy_iff.mpr ⟨entry, nothing⟩, RunLog.append, if_neg known]
    have grown := grows_put nothing (show Node.isLink (.file (payload record)) = false from rfl)
    refine ⟨_, ⟨grown.follows.leadsTo filed.leads, grown.follows.locate filed.located, ?_⟩, rfl⟩
    rw [children_put nothing, filed.children, List.map_append]
    rfl

end Filed

/-- Whether a ledger of files holds a log. Its directory may be missing as long as there is nothing to hold. -/
structure KeptIn (root : Path) (log : List RunRecord) (tree : Tree) : Prop where
  roomy : Roomy root
  filed : ∃ opened outer, tree.makeDirectories root = (.ok (), opened) ∧ Filed root log outer opened ∧
    (opened = tree ∨ log = [] ∧ tree.open? root = .error .missing)

/-- Whether a ledger of files is still to be filled: its directory is empty, or can be made, and is empty then. -/
structure Fresh (root : Path) (tree : Tree) : Prop where
  roomy : Roomy root
  made : (tree.makeDirectories root).1 = .ok ()
  empty : (tree.makeDirectories root).2.list root = .ok []

theorem Fresh.keptIn (fresh : Fresh root tree) : KeptIn root [] tree := by
  obtain ⟨roomy, made, empty⟩ := fresh
  have filled : root.text.isEmpty = false := by
    cases spelled : steps? root with
    | ok names => exact (steps?_ok spelled).2.1
    | error failure =>
      rw [list, entries, locate_eq, spelled] at empty
      cases empty
  cases opening : tree.makeDirectories root with
  | mk answer opened =>
    rw [opening] at made empty
    dsimp only at made empty
    subst made
    obtain ⟨outer, leads, located⟩ := leadsTo_of_isDirectory (isDirectory_of_makeDirectories opening filled)
    rw [list_of_leadsTo leads located] at empty
    have children : opened.children outer = [] := List.map_eq_nil_iff.mp (Except.ok.inj empty)
    refine ⟨roomy, opened, outer, opening, ⟨leads, located, children⟩, ?_⟩
    rcases open?_of_makeDirectories opening filled with is | absent
    · rw [makeDirectories_of_isDirectory is] at opening
      exact .inl (congrArg Prod.snd opening).symm
    · exact .inr ⟨rfl, absent⟩

namespace KeptIn

theorem get (kept : KeptIn root log tree) (printable : ∀ record ∈ log, record.isPrintable = true) (runId : RunId) :
    get root runId tree = .ok (RunLog.find? runId log) := by
  obtain ⟨roomy, opened, outer, made, filed, same | ⟨nothing, absent⟩⟩ := kept
  · rw [← same]
    exact filed.get roomy printable runId
  · obtain ⟨names, spelled⟩ := steps?_of_isDirectory filed.isDirectory
    have missing := open?_join absent spelled (recordName_named runId).1 (roomy.fits_record runId)
    have unread : tree.read (recordPath root runId) = .error .missing := by
      rw [Tree.read, recordPath_eq, missing]
      rfl
    unfold FileStore.get
    rw [unread, nothing]
    rfl

/-- No staging file is ever left behind. -/
theorem stagingFree (kept : KeptIn root log tree) (nonce : UInt32) (runId : RunId) : StagingFree root nonce runId tree := by
  obtain ⟨roomy, opened, outer, made, filed, _⟩ := kept
  intro location entry
  rw [made, (vacancy_iff.mp (filed.vacancy_staging roomy runId nonce)).1] at entry
  cases entry
  have paved := makeDirectories_paved tree root
  rw [made] at paved
  rcases paved.find? (stagingName runId nonce :: outer) with same | ⟨nothing, _⟩
  · rw [← same]
    exact filed.find?_staging runId nonce
  · exact nothing

theorem listRecent (kept : KeptIn root log tree) (printable : ∀ record ∈ log, record.isPrintable = true)
    (distinct : (log.map (·.runId)).Nodup) (filter : RunFilter) (limit : Nat) :
    listRecent root filter limit tree = .ok (RunLog.recent filter limit log) := by
  obtain ⟨roomy, opened, outer, made, filed, same | ⟨nothing, absent⟩⟩ := kept
  · rw [← same]
    exact filed.listRecent roomy printable distinct filter limit
  · have none : RunLog.recent filter limit log = [] := by
      rw [nothing, RunLog.recent, List.filter_nil, List.mergeSort_nil, List.take_nil]
    rw [none, FileStore.listRecent]
    split
    next => rfl
    next =>
      rw [FileStore.listedRuns, list_of_missing absent]
      dsimp only
      rw [Except.map, gather_eq, List.filterMap_nil, List.take_nil]

theorem append (kept : KeptIn root log tree) (printable : record.isPrintable = true) (nonce : UInt32) :
    ∃ after, KeptIn root (RunLog.append record log).2 after ∧
      append root nonce record tree = ((RunLog.append record log).1, after) := by
  obtain ⟨roomy, opened, outer, made, filed, _⟩ := kept
  obtain ⟨after, filedAfter, appended⟩ := filed.append roomy printable nonce
  have madeAgain := makeDirectories_of_isDirectory filed.isDirectory
  refine ⟨after, ⟨roomy, after, outer, makeDirectories_of_isDirectory filedAfter.isDirectory, filedAfter, .inl rfl⟩, ?_⟩
  rw [← appended]
  exact append_congr nonce record (made.trans madeAgain.symm)

/-- A ledger of files answers as the log does, and goes on holding what it holds. -/
theorem serve (kept : KeptIn root log tree) (printable : ∀ record ∈ log, record.isPrintable = true)
    (distinct : (log.map (·.runId)).Nodup) (call : LedgerCall)
    (allowed : ∀ nonce record, call = .append nonce record → record.isPrintable = true) :
    ((store root).serve tree call).1 = (RunLog.store.serve log call).1 ∧
      KeptIn root (RunLog.store.serve log call).2 ((store root).serve tree call).2 := by
  cases call with
  | append nonce record =>
    obtain ⟨after, keptAfter, appended⟩ := kept.append (allowed nonce record rfl) nonce
    rw [RunStore.serve, RunStore.serve, store, RunLog.store]
    dsimp only
    rw [appended]
    exact ⟨rfl, keptAfter⟩
  | get runId =>
    rw [RunStore.serve, RunStore.serve, store, RunLog.store]
    dsimp only
    rw [kept.get printable runId]
    exact ⟨rfl, kept⟩
  | listRecent filter limit =>
    rw [RunStore.serve, RunStore.serve, store, RunLog.store]
    dsimp only
    rw [kept.listRecent printable distinct filter limit]
    exact ⟨rfl, kept⟩

end KeptIn

end Ledger.FileStore

end SingleFlight
