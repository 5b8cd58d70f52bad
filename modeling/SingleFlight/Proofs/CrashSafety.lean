import SingleFlight.Proofs.Interruption

/-!
Crash safety of a ledger of files. Main statement: wherever an append is cut off, a reader finds all other runs as
they were and the new one whole or not at all, and the append can be made again if nothing came of it.
-/

namespace SingleFlight.Ledger.FileStore

open Files Files.Tree Text

variable {root : Path} {nonce again : UInt32} {record : RunRecord} {runId : RunId} {tree opened state other : Tree}
  {outer : Location} {linked : Bool} {names : List OsText}

section Listings

theorem atMost_of_lt {first second : String} (less : first < second) : first ≤ second :=
  String.not_lt.mp fun greater => String.lt_asymm less greater

/-- The order in which runs are listed. -/
def isLater (first second : RunId) : Bool := decide (second.text ≤ first.text)

theorem sorted_runs (runs : List RunId) : (runs.mergeSort isLater).Pairwise (fun first second => second.text ≤ first.text) := by
  have transitive (first second third : RunId) (before : isLater first second = true) (after : isLater second third = true) :
      isLater first third = true := by
    simp only [isLater, decide_eq_true_eq] at before after ⊢
    exact String.le_trans after before
  have total (first second : RunId) : (isLater first second || isLater second first) = true := by
    simp only [isLater, Bool.or_eq_true, decide_eq_true_eq]
    exact String.le_total second.text first.text
  have sorted := List.pairwise_mergeSort transitive total runs
  exact sorted.imp fun later => by simpa [isLater] using later

/-- A run that is new to a list is listed behind all that are greater, and in front of all that are smaller. -/
theorem mergeSort_concat {runs : List RunId} (absent : runId ∉ runs) : ∃ newer older,
    (∀ run ∈ newer, runId.text < run.text) ∧ (∀ run ∈ older, run.text < runId.text) ∧
    runs.mergeSort isLater = newer ++ older ∧ (runs ++ [runId]).mergeSort isLater = newer ++ runId :: older := by
  let isNewer (run : RunId) : Bool := !decide (run.text ≤ runId.text)
  let newer := (runs.mergeSort isLater).filter isNewer
  let older := (runs.mergeSort isLater).filter fun run => !isNewer run
  have newerAll (run : RunId) (found : run ∈ newer) : runId.text < run.text := by
    rw [← String.not_le]
    simpa [isNewer] using (List.mem_filter.mp found).2
  have olderAll (run : RunId) (found : run ∈ older) : run.text < runId.text := by
    obtain ⟨among, notNewer⟩ := List.mem_filter.mp found
    have atMost : run.text ≤ runId.text := by simpa [isNewer] using notNewer
    refine String.not_le.mp fun least => absent ?_
    rw [RunId.eq_of_text (String.le_antisymm least atMost)]
    exact List.mem_mergeSort.mp among
  have sortedNewer : newer.Pairwise (fun first second => second.text ≤ first.text) := (sorted_runs runs).filter _
  have sortedOlder : older.Pairwise (fun first second => second.text ≤ first.text) := (sorted_runs runs).filter _
  have parts : (newer ++ older).Perm runs :=
    (List.filter_append_perm isNewer _).trans (List.mergeSort_perm runs isLater)
  have antisymm (first second : List RunId) : ∀ a b, a ∈ first → b ∈ second → b.text ≤ a.text → a.text ≤ b.text → a = b :=
    fun a b _ _ before after => RunId.eq_of_text (String.le_antisymm after before)
  refine ⟨newer, older, newerAll, olderAll, ?_, ?_⟩
  · apply List.Perm.eq_of_pairwise (antisymm _ _) (sorted_runs runs)
    · rw [List.pairwise_append]
      refine ⟨sortedNewer, sortedOlder, ?_⟩
      intro first firstIn second secondIn
      exact atMost_of_lt (String.lt_trans (olderAll second secondIn) (newerAll first firstIn))
    · exact (List.mergeSort_perm runs isLater).trans parts.symm
  · apply List.Perm.eq_of_pairwise (antisymm _ _) (sorted_runs _)
    · rw [List.pairwise_append, List.pairwise_cons]
      refine ⟨sortedNewer, ⟨?_, sortedOlder⟩, ?_⟩
      · intro run found
        exact atMost_of_lt (olderAll run found)
      · intro first firstIn second secondIn
        rcases List.mem_cons.mp secondIn with same | later
        · rw [same]
          exact atMost_of_lt (newerAll first firstIn)
        · exact atMost_of_lt (String.lt_trans (olderAll second later) (newerAll first firstIn))
    · have among : (newer ++ runId :: older).Perm (runs ++ [runId]) :=
        List.perm_middle.trans ((parts.cons runId).trans (List.perm_append_singleton runId runs).symm)
      exact (List.mergeSort_perm _ isLater).trans among.symm

/-- The runs that the files of a directory are named for. -/
def runsIn (tree : Tree) (outer : Location) : List RunId := (tree.children outer).filterMap fun entry => namedRun? entry.1

theorem listedRuns_of_list (listed : tree.list root = .ok names) :
    listedRuns root tree = .ok ((names.filterMap namedRun?).mergeSort isLater) := by
  unfold listedRuns
  rw [listed]
  rfl

theorem listedRuns_eq (leads : tree.LeadsTo root outer) (located : tree.locate root = .ok outer) :
    listedRuns root tree = .ok ((runsIn tree outer).mergeSort isLater) := by
  rw [listedRuns_of_list (list_of_leadsTo leads located), List.filterMap_map]
  rfl

theorem listRecent_eq {runs : List RunId} (listed : listedRuns root tree = .ok runs) (filter : RunFilter) (limit : Nat) :
    listRecent root filter limit tree = .ok ((runs.filterMap (kept? root filter tree)).take limit) := by
  unfold listRecent
  split
  next nothing => rw [nothing, List.take_zero]
  next =>
    rw [listed, Except.map, gather_eq]

theorem runId_of_kept? {filter : RunFilter} {found : RunRecord} (kept : kept? root filter tree runId = some found) :
    found.runId = runId := by
  unfold kept? at kept
  split at kept
  next got =>
    split at kept
    next =>
      cases kept
      exact runId_of_get got
    next => cases kept
  next => cases kept

theorem kept?_congr (same : get root runId state = get root runId other) (filter : RunFilter) :
    kept? root filter state runId = kept? root filter other runId := by
  unfold kept?
  rw [same]

theorem absent_of_vacant (vacant : tree.find? (recordName runId :: outer) = none) : runId ∉ runsIn tree outer := by
  intro listed
  obtain ⟨entry, entryIn, named⟩ := List.mem_filterMap.mp listed
  rw [find?_child, Option.map_eq_none_iff, List.find?_eq_none] at vacant
  exact vacant entry entryIn (by simpa using name_of_namedRun? named)

/-- A listing shows the other runs as before, and the run of the append in its place if it has been linked. -/
theorem Adds.listRecent (adds : Adds record outer opened linked state) (leads : opened.LeadsTo root outer)
    (located : opened.locate root = .ok outer) (unbroken : Unbroken root opened)
    (vacant : opened.vacancy (recordPath root record.runId) = .ok (recordName record.runId :: outer)) (filter : RunFilter) :
    ∃ newer older, (∀ found ∈ newer, record.runId.text < found.runId.text) ∧
      (∀ found ∈ older, found.runId.text < record.runId.text) ∧
      ∀ limit, listRecent root filter limit opened = .ok ((newer ++ older).take limit) ∧
        listRecent root filter limit state =
          .ok ((newer ++ (if linked && filter.keeps record then [record] else []) ++ older).take limit) := by
  obtain ⟨entry, nothing⟩ := vacancy_iff.mp vacant
  have absent := absent_of_vacant nothing
  obtain ⟨newer, older, newerAll, olderAll, before, after⟩ := mergeSort_concat absent
  have follows := adds.grows.follows
  have openedRuns := listedRuns_eq leads located
  have stateRuns := listedRuns_eq (follows.leadsTo leads) (follows.locate located)
  obtain ⟨extra, children, named⟩ := adds.children
  have longer : runsIn state outer = runsIn opened outer ++ if linked then [record.runId] else [] := by
    rw [runsIn, children, List.filterMap_append, named]
    rfl
  have own : kept? root filter state record.runId = if linked && filter.keeps record then some record else none := by
    unfold kept?
    rw [adds.get_own entry]
    cases linked <;> rfl
  have others {runs : List RunId} (different : ∀ run ∈ runs, run ≠ record.runId) :
      runs.filterMap (kept? root filter state) = runs.filterMap (kept? root filter opened) := by
    apply List.filterMap_congr
    intro run found
    exact kept?_congr (adds.get_other leads unbroken (different run found)) filter
  have newerOthers := others fun run found same => String.lt_irrefl _ (same ▸ newerAll run found)
  have olderOthers := others fun run found same => String.lt_irrefl _ (same ▸ olderAll run found)
  refine ⟨newer.filterMap (kept? root filter opened), older.filterMap (kept? root filter opened), ?_, ?_, ?_⟩
  · intro found foundIn
    obtain ⟨run, runIn, kept⟩ := List.mem_filterMap.mp foundIn
    rw [runId_of_kept? kept]
    exact newerAll run runIn
  · intro found foundIn
    obtain ⟨run, runIn, kept⟩ := List.mem_filterMap.mp foundIn
    rw [runId_of_kept? kept]
    exact olderAll run runIn
  · intro limit
    rw [before] at openedRuns
    have openedRecent := listRecent_eq openedRuns filter limit
    rw [List.filterMap_append] at openedRecent
    refine ⟨openedRecent, ?_⟩
    rw [longer] at stateRuns
    cases linked with
    | false =>
      rw [if_neg (by decide), List.append_nil, before] at stateRuns
      have stateRecent := listRecent_eq stateRuns filter limit
      rw [List.filterMap_append, newerOthers, olderOthers] at stateRecent
      simpa using stateRecent
    | true =>
      rw [if_pos rfl, after] at stateRuns
      have stateRecent := listRecent_eq stateRuns filter limit
      rw [List.filterMap_append, List.filterMap_cons, own, newerOthers, olderOthers] at stateRecent
      rw [stateRecent]
      cases filter.keeps record with
      | false => simp
      | true => simp

end Listings

/-- Whether two trees read alike as a ledger. -/
structure Alike (root : Path) (tree other : Tree) : Prop where
  got : ∀ runId, get root runId tree = get root runId other
  listed : listedRuns root tree = listedRuns root other

theorem Alike.refl (root : Path) (tree : Tree) : Alike root tree tree := ⟨fun _ => rfl, rfl⟩

theorem Alike.listRecent (alike : Alike root tree other) (filter : RunFilter) (limit : Nat) :
    listRecent root filter limit tree = listRecent root filter limit other := by
  have same : kept? root filter tree = kept? root filter other := by
    funext runId
    exact kept?_congr (alike.got runId) filter
  unfold FileStore.listRecent
  rw [alike.listed, same]

/-- A ledger whose directory is missing reads as one whose directory is empty. -/
theorem alike_of_missing (absent : tree.open? root = .error .missing) (leads : opened.LeadsTo root outer)
    (located : opened.locate root = .ok outer) (empty : opened.children outer = []) : Alike root tree opened := by
  refine ⟨?_, ?_⟩
  · intro runId
    apply get_congr
    cases spelled : steps? (recordPath root runId) with
    | error failure =>
      unfold open?
      rw [locate_eq, locate_eq, spelled]
      rfl
    | ok names =>
      have plain := (recordName_named runId).1
      obtain ⟨rootNames, rootSpelled, _⟩ := bind_ok located
      have fits := ((steps?_join plain).mp (recordPath_eq root runId ▸ spelled)).1
      have nothing : opened.find? (recordName runId :: outer) = none := by
        rw [find?_child, empty]
        rfl
      rw [open?_of_vacancy (vacancy_recordPath leads fits nothing), recordPath_eq]
      exact open?_join absent rootSpelled plain fits
  · unfold listedRuns
    rw [list_of_missing absent, list_of_leadsTo leads located, empty]
    dsimp only
    rw [List.map_nil, List.filterMap_nil, List.mergeSort_nil]

/-- Whether a ledger takes the record of a new run, in a directory that may have to be made first. Such a
directory is empty; one that is there may hold whatever it likes, but for a file of a run that is a link to
nowhere. -/
structure Ready (root : Path) (nonce : UInt32) (record : RunRecord) (tree opened : Tree) : Prop where
  made : tree.makeDirectories root = (.ok (), opened)
  listed : ∃ names, opened.list root = .ok names ∧ (opened = tree ∨ names = [])
  staged : ∃ staging, opened.vacancy (stagingPath root record.runId nonce) = .ok staging
  vacant : ∃ filed, opened.vacancy (recordPath root record.runId) = .ok filed
  unbroken : Unbroken root opened

/-- Where the directory of a ledger is, and what has come of the trees on the way to it. -/
theorem Ready.reached (ready : Ready root nonce record tree opened) : ∃ outer, opened.LeadsTo root outer ∧
    opened.locate root = .ok outer ∧ opened.isDirectory root = true ∧
    ∀ state ∈ tree.waypoints root (root.text.length + 1), Alike root state opened := by
  obtain ⟨names, listed, there⟩ := ready.listed
  have filled : root.text.isEmpty = false := by
    obtain ⟨entries, opening, _⟩ := bind_ok listed
    obtain ⟨_, located, _⟩ := bind_ok opening
    obtain ⟨_, spelled, _⟩ := bind_ok located
    exact (steps?_ok spelled).2.1
  have is := isDirectory_of_makeDirectories ready.made filled
  obtain ⟨outer, leads, located⟩ := leadsTo_of_isDirectory is
  refine ⟨outer, leads, located, is, ?_⟩
  intro state passed
  have again := makeDirectoriesWithin_of_waypoint ready.made passed
  rcases open?_of_makeDirectoriesWithin again filled with stateIs | absent
  · have still := makeDirectoriesWithin_of_isDirectory stateIs root.text.length
    rw [again] at still
    cases still
    exact Alike.refl root _
  · rcases there with same | empty
    · have grown := grows_of_waypoint passed
      rw [same] at is
      have stateIs := grown.follows.isDirectory is
      unfold isDirectory at stateIs
      rw [absent] at stateIs
      cases stateIs
    · rw [empty, list_of_leadsTo leads located] at listed
      exact alike_of_missing absent leads located (List.map_eq_nil_iff.mp (Except.ok.inj listed))

/-- What an append answers that is made again after one that was cut off, and what is then read of the run. -/
theorem Adds.append (adds : Adds record outer opened linked state) (is : opened.isDirectory root = true)
    (vacant : opened.vacancy (recordPath root record.runId) = .ok (recordName record.runId :: outer))
    (fresh : ∃ staging, (state.makeDirectories root).2.vacancy (stagingPath root record.runId again) = .ok staging) :
    (append root again record state).1 = (if linked then .error (.recordExists record.runId)
      else if record.isPrintable then .ok () else .error (.recordUnprintable record.runId)) ∧
    get root record.runId (append root again record state).2 = .ok (if record.isPrintable then some record else none) := by
  have made := makeDirectories_of_isDirectory (adds.grows.follows.isDirectory is)
  rw [made] at fresh
  obtain ⟨staging, staged⟩ := fresh
  obtain ⟨entry, nothing⟩ := vacancy_iff.mp vacant
  have stays := adds.grows.follows.locateEntry entry
  have held := adds.filed
  cases linked with
  | true =>
    have printable := adds.printable rfl
    have occupied : state.vacancy (recordPath root record.runId) = .error .exists := by
      unfold vacancy
      rw [stays]
      simp [bind, Except.bind, held]
    have refused : append root again record state = (.error (.recordExists record.runId), state) := by
      rw [append_eq made printable staged, occupied]
      rfl
    rw [refused, if_pos rfl, if_pos printable]
    exact ⟨rfl, adds.get_own entry⟩
  | false =>
    obtain ⟨accepted, got⟩ := append_new made staged (vacancy_iff.mpr ⟨stays, held⟩)
    refine ⟨?_, got⟩
    rw [if_neg (by decide)]
    by_cases printable : record.isPrintable = true
    · rw [if_pos printable]
      exact accepted.mpr printable
    · rw [if_neg printable, append_unprintable again made printable]

/-- What is to be found in a ledger after an append has been cut off. The other runs are read and listed as before;
the run of the append is read and listed whole, in its place, if its file had been linked, and not at all if not; what
is left of a staging file counts for no run. The append can be made again, and is refused only if it was done. -/
structure Intact (root : Path) (again : UInt32) (record : RunRecord) (tree : Tree) (linked : Bool) (state : Tree) : Prop where
  others : ∀ runId, runId ≠ record.runId → get root runId state = get root runId tree
  own : get root record.runId state = .ok (if linked then some record else none)
  listed : ∀ filter, ∃ newer older, (∀ found ∈ newer, record.runId.text < found.runId.text) ∧
    (∀ found ∈ older, found.runId.text < record.runId.text) ∧
    ∀ limit, listRecent root filter limit tree = .ok ((newer ++ older).take limit) ∧
      listRecent root filter limit state =
        .ok ((newer ++ (if linked && filter.keeps record then [record] else []) ++ older).take limit)
  hidden : ∀ runId nonce, namedRun? (stagingName runId nonce) = none ∧ ∀ other, recordName other ≠ stagingName runId nonce
  repeated : (FileStore.append root again record state).1 = if linked then .error (.recordExists record.runId)
    else if record.isPrintable then .ok () else .error (.recordUnprintable record.runId)
  recorded : get root record.runId (FileStore.append root again record state).2 =
    .ok (if record.isPrintable then some record else none)

theorem Ready.adds (ready : Ready root nonce record tree opened) (leads : opened.LeadsTo root outer) {done : List Effect}
    (cut : Cut done (effects root nonce record)) :
    opened.vacancy (recordPath root record.runId) = .ok (recordName record.runId :: outer) ∧
      Adds record outer opened (done.contains (linking root nonce record)) (opened.performAll done).2 := by
  obtain ⟨staging, staged⟩ := ready.staged
  obtain ⟨filed, vacant⟩ := ready.vacant
  obtain ⟨entry, nothing⟩ := vacancy_iff.mp vacant
  obtain ⟨stagingEntry, stagingNothing⟩ := vacancy_iff.mp staged
  obtain ⟨other, otherLeads, rfl, otherEntry⟩ := locateEntry_recordPath stagingEntry
  obtain rfl := leads.unique otherLeads
  rw [otherEntry] at entry
  cases entry
  obtain ⟨remains, printable⟩ := remains_of_cut staged vacant cut
  exact ⟨vacant, remains.adds stagingNothing nothing printable⟩

/-- The whole append is the last of its own cuts. -/
theorem Ready.whole (ready : Ready root nonce record tree opened) :
    CutOff root nonce record tree record.isPrintable (append root nonce record tree).2 := by
  obtain ⟨staging, staged⟩ := ready.staged
  obtain ⟨filed, vacant⟩ := ready.vacant
  have all := CutOff.atWork ready.made (Cut.whole (effects root nonce record))
  by_cases printable : record.isPrintable = true
  · have shape : effects root nonce record = .createNew (stagingPath root record.runId nonce) ::
        .write (stagingPath root record.runId nonce) (payload record) :: .sync (stagingPath root record.runId nonce) ::
          [linking root nonce record, .remove (stagingPath root record.runId nonce)] := if_pos printable
    have linked : (effects root nonce record).contains (linking root nonce record) = record.isPrintable := by
      rw [printable, shape, List.contains_iff_mem]
      simp
    have ran : (opened.performAll (effects root nonce record)).2 = (append root nonce record tree).2 := by
      rw [append_eq ready.made printable staged, vacant, shape, performAll_staging staged]
      simp only [performAll, linking, perform_link staged vacant, perform_remove staged vacant]
    rwa [linked, ran] at all
  · have none : effects root nonce record = [] := if_neg printable
    rw [none] at all
    rw [append_unprintable nonce ready.made printable]
    have unprintable : record.isPrintable = false := by simpa using printable
    rw [unprintable]
    exact all

theorem Adds.intact (adds : Adds record outer opened linked state) (leads : opened.LeadsTo root outer)
    (located : opened.locate root = .ok outer) (is : opened.isDirectory root = true) (unbroken : Unbroken root opened)
    (vacant : opened.vacancy (recordPath root record.runId) = .ok (recordName record.runId :: outer))
    (before : Alike root tree opened)
    (fresh : ∃ staging, (state.makeDirectories root).2.vacancy (stagingPath root record.runId again) = .ok staging) :
    Intact root again record tree linked state := by
  obtain ⟨repeated, recorded⟩ := adds.append is vacant fresh
  refine ⟨?_, adds.get_own (vacancy_iff.mp vacant).1, ?_, ?_, repeated, recorded⟩
  · intro runId different
    rw [before.got]
    exact adds.get_other leads unbroken different
  · intro filter
    obtain ⟨newer, older, newerAll, olderAll, listed⟩ := adds.listRecent leads located unbroken vacant filter
    refine ⟨newer, older, newerAll, olderAll, ?_⟩
    intro limit
    rw [before.listRecent]
    exact listed limit
  · intro runId nonce
    exact ⟨namedRun?_stagingName runId nonce, recordName_ne_stagingName runId nonce⟩

/-- A ledger that reads as an intact one is intact, if it can be appended to alike. -/
theorem Intact.of_alike (intact : Intact root again record tree linked opened) (alike : Alike root state opened)
    (same : FileStore.append root again record state = FileStore.append root again record opened) :
    Intact root again record tree linked state := by
  refine ⟨?_, ?_, ?_, intact.hidden, ?_, ?_⟩
  · intro runId different
    rw [alike.got]
    exact intact.others runId different
  · rw [alike.got]
    exact intact.own
  · intro filter
    obtain ⟨newer, older, newerAll, olderAll, listed⟩ := intact.listed filter
    refine ⟨newer, older, newerAll, olderAll, ?_⟩
    intro limit
    rw [alike.listRecent]
    exact listed limit
  · rw [same]
    exact intact.repeated
  · rw [same]
    exact intact.recorded

section Samples

theorem get_of_locate (record : RunRecord) {location : Location} (located : tree.locate (recordPath root runId) = .ok location) :
    (tree.find? location = none → get root runId tree = .ok none) ∧
      (record.isPrintable = true → tree.find? location = some (.file (payload record)) →
        get root runId tree = if record.runId = runId then .ok (some record) else .error (.recordMisfiled runId record.runId)) := by
  unfold get Tree.read open?
  rw [located]
  refine ⟨?_, ?_⟩
  · intro nothing
    simp [bind, Except.bind, nothing]
  · intro printable held
    simp [bind, Except.bind, held, decode?_payload printable]

/-- A run beside the sample. -/
def neighbour : RunRecord := { sample with runId := ⟨"20260101T000000Z-0002", by rfl⟩ }

/-- A record whose time is too early for a text form. -/
def tooEarly : RunRecord := { sample with startedAt := ⟨⟨⟨-1, 1, 1⟩, 0, 0, 0, 0, 0⟩, by rfl⟩ }

/-- Where the file of the neighbour is a link to the file that an append makes, the neighbour is missing before and
broken behind. -/
theorem get_of_link :
    let tree := Tree.empty.put [recordName neighbour.runId, "work"] (.link (recordName sample.runId))
    get (.ofText "/work") neighbour.runId tree = .ok none ∧
      get (.ofText "/work") neighbour.runId (append (.ofText "/work") 7 sample tree).2 =
        .error (.recordMisfiled neighbour.runId sample.runId) := by
  intro tree
  obtain ⟨leads, _⟩ := leads_work tree rfl rfl
  have is := isDirectory_work tree rfl rfl
  have staged : tree.vacancy (stagingPath (.ofText "/work") sample.runId 7) =
      .ok [stagingName sample.runId 7, "work"] :=
    vacancy_stagingPath leads ⟨by decide, by decide⟩ rfl
  have vacant : tree.vacancy (recordPath (.ofText "/work") sample.runId) = .ok [recordName sample.runId, "work"] :=
    vacancy_recordPath leads ⟨by decide, by decide⟩ rfl
  have leadsOn : tree.locate (recordPath (.ofText "/work") neighbour.runId) =
      .ok [recordName sample.runId, "work"] := by
    have spelled : steps? (recordPath (.ofText "/work") neighbour.runId) =
        .ok ["work", recordName neighbour.runId] := by
      rw [recordPath_eq, steps?_join (recordName_named neighbour.runId).1]
      exact ⟨⟨by decide, by decide⟩, by decide⟩
    have target : steps (recordName sample.runId) ++ [] = [recordName sample.runId] := by decide
    have begins : tree.origin (recordPath (.ofText "/work") neighbour.runId) = [] := by decide
    have root : tree.find? [] = some (.directory 0) := rfl
    have work : tree.find? ["work"] = some (.directory 0) := rfl
    have link : tree.find? [recordName neighbour.runId, "work"] = some (.link (recordName sample.runId)) := rfl
    have followed : tree.walk linkLimit ["work"] [recordName neighbour.runId] =
        tree.walk 39 ["work"] (steps (recordName sample.runId) ++ []) := walk_link work rfl (by decide) link
    rw [locate_of_steps spelled, begins, walk_name root rfl (by decide) (noLink_of work rfl), followed, target]
    exact walk_single work rfl (by decide) nofun
  have appended : append (.ofText "/work") 7 sample tree =
      (.ok (), tree.put [recordName sample.runId, "work"] (.file (payload sample))) := by
    rw [append_eq (makeDirectories_of_isDirectory is) storable_sample.1 staged, vacant]
  refine ⟨(get_of_locate sample leadsOn).1 rfl, ?_⟩
  rw [appended]
  have stays := (grows_put (vacancy_iff.mp vacant).2 (show Node.isLink (.file (payload sample)) = false from rfl)).follows.locate leadsOn
  exact ((get_of_locate sample stays).2 storable_sample.1 (by rw [find?_put, if_pos rfl])).trans (if_neg (by decide))

/-- Where the directory of a ledger is found only once another one has been made, its files are found only then. -/
theorem get_of_detour :
    let tree := Tree.empty.put [recordName neighbour.runId, "work"] (.file (payload neighbour))
    get (.ofText "x/..") neighbour.runId tree = .ok none ∧
      get (.ofText "x/..") neighbour.runId (append (.ofText "x/..") 7 sample tree).2 = .ok (some neighbour) := by
  intro tree
  let made := tree.put ["x", "work"] (.directory 0)
  have work : tree.find? ["work"] = some (.directory 0) := rfl
  have spelled : steps? (.ofText "x/..") = .ok ["x", OsText.dots] := by decide
  have first : tree.walk linkLimit ["work"] ["x"] = .ok ["x", "work"] := walk_single work rfl (by decide) nofun
  have missing : tree.open? (.ofText "x/..") = .error .missing := by
    rw [open?_missing_iff spelled]
    have nowhere : LeadsNowhere tree linkLimit ["work"] ["x"] := .inr ⟨_, first, rfl⟩
    exact .inl (nowhere.append OsText.dots [])
  have outerSpelled : steps? (.ofText "x") = .ok ["x"] := by decide
  have outerMissing : tree.open? (.ofText "x") = .error .missing :=
    (open?_missing_iff outerSpelled).mpr (.inr ⟨_, first, rfl⟩)
  have above : Path.parent? (.ofText "x/..") = some (.ofText "x") := by decide
  have blocked : tree.makeDirectory (.ofText "x/..") = .error .missing :=
    makeDirectory_of_parent above spelled outerSpelled outerMissing
  have outerMade : tree.makeDirectory (.ofText "x") = .ok made := by
    have stem : withoutEndSlashes (.ofText "x") = (.ofText "x") := by decide
    have entry : tree.locateEntry (.ofText "x") = .ok (some ["x", "work"]) :=
      locateEntry_iff.mpr ⟨[], "x", ["work"], .directory 0, outerSpelled, walk_nil _ _ _, work, rfl, by decide, rfl⟩
    unfold makeDirectory
    rw [outerSpelled, stem, vacancy_iff.mpr ⟨entry, rfl⟩]
    rfl
  have madeWork : made.find? ["work"] = some (.directory 0) := rfl
  have madeFirst : made.find? ["x", "work"] = some (.directory 0) := rfl
  have back (links : Nat) (names : List OsText) :
      made.walk links ["work"] ("x" :: OsText.dots :: names) = made.walk links ["work"] names := by
    rw [walk_name madeWork rfl (by decide) (noLink_of madeFirst rfl), walk_dots madeFirst rfl]
    rfl
  have located : made.locate (.ofText "x/..") = .ok ["work"] := by
    rw [locate_of_steps spelled]
    exact (back linkLimit []).trans (walk_nil _ _ _)
  have is : made.isDirectory (.ofText "x/..") = true :=
    isDirectory_iff.mpr ⟨["work"], .directory 0, located, madeWork, rfl⟩
  have leads : made.LeadsTo (.ofText "x/..") ["work"] :=
    ⟨(back linkLimit []).trans (walk_nil _ _ _), .directory 0, madeWork, rfl⟩
  have makes : tree.makeDirectories (.ofText "x/..") = (.ok (), made) := by
    obtain ⟨failure, refused, _⟩ := makeDirectory_of_isDirectory is
    have reached : tree.makeDirectoriesWithin (.ofText "x") 4 = (.ok (), made) := by
      rw [makeDirectoriesWithin, if_neg (by decide), outerMade]
    have ensured : made.ensureDirectory (.ofText "x/..") = (.ok (), made) := by
      rw [ensureDirectory, refused]
      exact if_pos is
    have unfolded : tree.makeDirectoriesWithin (.ofText "x/..") (4 + 1) =
        made.ensureDirectory (.ofText "x/..") := by
      rw [makeDirectoriesWithin, if_neg (by decide), blocked]
      dsimp only
      rw [above]
      dsimp only
      rw [reached]
    exact unfolded.trans ensured
  have staged : made.vacancy (stagingPath (.ofText "x/..") sample.runId 7) =
      .ok [stagingName sample.runId 7, "work"] :=
    vacancy_stagingPath leads ⟨by decide, by decide⟩ rfl
  have vacant : made.vacancy (recordPath (.ofText "x/..") sample.runId) = .ok [recordName sample.runId, "work"] :=
    vacancy_recordPath leads ⟨by decide, by decide⟩ rfl
  have appended : append (.ofText "x/..") 7 sample tree =
      (.ok (), made.put [recordName sample.runId, "work"] (.file (payload sample))) := by
    rw [append_eq makes storable_sample.1 staged, vacant]
  have plain := (recordName_named neighbour.runId).1
  have fits : Fits (.ofText "x/..") (recordName neighbour.runId) := ⟨by decide, by decide⟩
  refine ⟨?_, ?_⟩
  · have unread : tree.read (recordPath (.ofText "x/..") neighbour.runId) = .error .missing := by
      rw [Tree.read, recordPath_eq, open?_join missing spelled plain fits]
      rfl
    unfold get
    rw [unread]
  · obtain ⟨_, proper, _⟩ := recordName_named neighbour.runId
    have entry : made.locateEntry (recordPath (.ofText "x/..") neighbour.runId) =
        .ok (some [recordName neighbour.runId, "work"]) := by
      rw [recordPath_eq, locateEntry_join plain proper]
      exact ⟨fits, ["work"], leads, rfl⟩
    have there : get (.ofText "x/..") neighbour.runId made = .ok (some neighbour) :=
      get_of_payload storable_sample.1 entry rfl
    rw [appended]
    exact get_of_grows (grows_put (vacancy_iff.mp vacant).2 rfl) there

/-- The empty path leads to files, but to no directory that is listed. -/
theorem listRecent_of_empty :
    (append (.ofText "") 7 sample Tree.empty).1 = .ok () ∧
      listRecent (.ofText "") .everything 5 (append (.ofText "") 7 sample Tree.empty).2 = .ok [] := by
  have leads : Tree.empty.LeadsTo (.ofText "") ["work"] := ⟨walk_nil _ _ _, .directory 0, rfl, rfl⟩
  have staged : Tree.empty.vacancy (stagingPath (.ofText "") sample.runId 7) =
      .ok [stagingName sample.runId 7, "work"] :=
    vacancy_stagingPath leads ⟨by decide, by decide⟩ rfl
  have vacant : Tree.empty.vacancy (recordPath (.ofText "") sample.runId) = .ok [recordName sample.runId, "work"] :=
    vacancy_recordPath leads ⟨by decide, by decide⟩ rfl
  have appended : append (.ofText "") 7 sample Tree.empty =
      (.ok (), Tree.empty.put [recordName sample.runId, "work"] (.file (payload sample))) := by
    rw [append_eq rfl storable_sample.1 staged, vacant]
  rw [appended]
  exact ⟨rfl, rfl⟩

end Samples

/-- Wherever an append is cut off, before its first effect, behind its last one or anywhere in between, the ledger is
intact; and if it is not cut off at all, it ends in one of the trees that it can be cut off at. -/
theorem append_interrupted (ready : Ready root nonce record tree opened) :
    CutOff root nonce record tree record.isPrintable (append root nonce record tree).2 ∧
    ∀ linked state again, CutOff root nonce record tree linked state →
      (∃ staging, (state.makeDirectories root).2.vacancy (stagingPath root record.runId again) = .ok staging) →
      Intact root again record tree linked state := by
  refine ⟨ready.whole, ?_⟩
  intro linked state again cutOff fresh
  obtain ⟨outer, leads, located, is, alike⟩ := ready.reached
  obtain ⟨start, _, _⟩ := waypoints_way tree root (root.text.length + 1)
  have before := alike tree (List.mem_of_head? start)
  cases cutOff with
  | onTheWay passed =>
    have resumed : state.makeDirectories root = (.ok (), opened) := makeDirectoriesWithin_of_waypoint ready.made passed
    have still := makeDirectories_of_isDirectory is
    obtain ⟨vacant, adds⟩ := ready.adds leads (.between _)
    have opening : (state.makeDirectories root).2 = (opened.makeDirectories root).2 := by rw [resumed, still]
    have intact := adds.intact leads located is ready.unbroken vacant before (opening ▸ fresh)
    exact intact.of_alike (alike state passed) (append_congr again record (resumed.trans still.symm))
  | @atWork other done made cut =>
    have same := made
    rw [ready.made] at same
    cases same
    obtain ⟨vacant, adds⟩ := ready.adds leads cut
    exact adds.intact leads located is ready.unbroken vacant before fresh

/-- An append that was cut off after three bytes of the record. -/
theorem append_interrupted_sample :
    let torn := Tree.empty.put [stagingName sample.runId 7, "work"] (.file ((payload sample).take 3))
    Ready (.ofText "/work") 7 sample Tree.empty Tree.empty ∧
      CutOff (.ofText "/work") 7 sample Tree.empty false torn ∧
    (∃ staging, (torn.makeDirectories (.ofText "/work")).2.vacancy
      (stagingPath (.ofText "/work") sample.runId 8) = .ok staging) ∧
    Intact (.ofText "/work") 8 sample Tree.empty false torn := by
  intro torn
  obtain ⟨leads, located⟩ := leads_work Tree.empty rfl rfl
  have is := isDirectory_work Tree.empty rfl rfl
  have made := makeDirectories_of_isDirectory is
  have staged : Tree.empty.vacancy (stagingPath (.ofText "/work") sample.runId 7) =
      .ok [stagingName sample.runId 7, "work"] :=
    vacancy_stagingPath leads ⟨by decide, by decide⟩ rfl
  have vacant : Tree.empty.vacancy (recordPath (.ofText "/work") sample.runId) =
      .ok [recordName sample.runId, "work"] :=
    vacancy_recordPath leads ⟨by decide, by decide⟩ rfl
  have unbroken : Unbroken (.ofText "/work") Tree.empty := by
    intro runId location _ entry
    obtain ⟨plain, proper, _⟩ := recordName_named runId
    rw [recordPath_eq, locateEntry_join plain proper] at entry
    obtain ⟨_, outer, otherLeads, rfl⟩ := entry
    rw [otherLeads.unique leads, find?_child]
    rfl
  have ready : Ready (.ofText "/work") 7 sample Tree.empty Tree.empty :=
    ⟨made, ⟨_, list_of_leadsTo leads located, .inl rfl⟩, ⟨_, staged⟩, ⟨_, vacant⟩, unbroken⟩
  have cut : Cut [.createNew (stagingPath (.ofText "/work") sample.runId 7),
      .write (stagingPath (.ofText "/work") sample.runId 7) ((payload sample).take 3)]
        (effects (.ofText "/work") 7 sample) := by
    rw [effects, if_pos storable_sample.1]
    exact .behind (.within _ _ 3 _)
  have cutOff : CutOff (.ofText "/work") 7 sample Tree.empty false torn := by
    have at3 := CutOff.atWork made cut
    have ran : (Tree.empty.performAll [.createNew (stagingPath (.ofText "/work") sample.runId 7),
        .write (stagingPath (.ofText "/work") sample.runId 7) ((payload sample).take 3)]).2 = torn := by
      simp [performAll, perform_createNew staged, perform_write staged, torn]
    rw [ran] at at3
    exact at3
  obtain ⟨tornLeads, _⟩ := leads_work torn rfl rfl
  have tornIs := isDirectory_work torn rfl rfl
  have fresh : ∃ staging, (torn.makeDirectories (.ofText "/work")).2.vacancy
      (stagingPath (.ofText "/work") sample.runId 8) = .ok staging := by
    rw [makeDirectories_of_isDirectory tornIs]
    exact ⟨_, vacancy_stagingPath tornLeads ⟨by decide, by decide⟩ rfl⟩
  exact ⟨ready, cutOff, fresh, (append_interrupted ready).2 false torn 8 cutOff fresh⟩

/-- What an append that is not cut off at all can change beside its record, or fail to change: a link that leads
nowhere may lead to the new record, a directory on the way may open a detour, the empty path is never listed, and a
record without a text form is refused as often as it is appended. -/
theorem append_not_intact :
    let linked := Tree.empty.put [recordName neighbour.runId, "work"] (.link (recordName sample.runId))
    let nearby := Tree.empty.put [recordName neighbour.runId, "work"] (.file (payload neighbour))
    (get (.ofText "/work") neighbour.runId linked = .ok none ∧
      get (.ofText "/work") neighbour.runId (append (.ofText "/work") 7 sample linked).2 =
        .error (.recordMisfiled neighbour.runId sample.runId)) ∧
    (get (.ofText "x/..") neighbour.runId nearby = .ok none ∧
      get (.ofText "x/..") neighbour.runId (append (.ofText "x/..") 7 sample nearby).2 = .ok (some neighbour)) ∧
    ((append (.ofText "") 7 sample Tree.empty).1 = .ok () ∧
      listRecent (.ofText "") .everything 5 (append (.ofText "") 7 sample Tree.empty).2 = .ok []) ∧
    (append (.ofText "/work") 8 tooEarly (append (.ofText "/work") 7 tooEarly Tree.empty).2).1 =
      .error (.recordUnprintable tooEarly.runId) := by
  intro linked nearby
  refine ⟨get_of_link, get_of_detour, listRecent_of_empty, ?_⟩
  have made := makeDirectories_of_isDirectory (isDirectory_work Tree.empty rfl rfl)
  have unprintable : ¬tooEarly.isPrintable = true := by
    have untimed : tooEarly.isTimed = false := by decide
    rw [RunRecord.isPrintable, untimed, Bool.false_and]
    decide
  rw [append_unprintable 7 made unprintable, append_unprintable 8 made unprintable]

end SingleFlight.Ledger.FileStore
