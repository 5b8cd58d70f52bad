import SingleFlight.Proofs.CrashSafety

/-!
What a ledger shows to those who read it. A ledger of files is read whatever else there is in its directory: what
is no file of a run, or no record of the run that it is named for, is passed over.
-/

namespace SingleFlight.Ledger

open Files Files.Tree

variable {σ : Type}

/-- Whether a store shows certain records and nothing else, the greatest run id first, through every filter. -/
def RunStore.Shows (store : RunStore σ) (state : σ) (held : RunRecord → Prop) : Prop :=
  ∀ filter : RunFilter, ∃ found : List RunRecord,
    found.Pairwise (fun first second => second.runId.text ≤ first.runId.text) ∧
    (∀ record, record ∈ found ↔ held record ∧ filter.keeps record = true) ∧
    ∀ limit, (store.listMatching filter limit state).1 = found.take limit

@[simp]
theorem keeps_ofFamily (family : ActionFamily) (record : RunRecord) :
    (RunFilter.ofFamily family).keeps record = family.contains record.action := rfl

/-- The record that is shown as the latest one has the greatest run id in its family, and is missing only if the
whole family is. -/
theorem RunStore.Shows.latest {store : RunStore σ} {state : σ} {held : RunRecord → Prop} (shows : store.Shows state held)
    (family : ActionFamily) :
    match (store.latest family state).1 with
    | none => ∀ record, held record → family.contains record.action = false
    | some record => held record ∧ family.contains record.action = true ∧
        ∀ other, held other → family.contains other.action = true → other.runId.text ≤ record.runId.text := by
  obtain ⟨found, sorted, members, listed⟩ := shows (.ofFamily family)
  have first : (store.latest family state).1 = found.head? := by
    change (store.listMatching (.ofFamily family) 1 state).1.head? = found.head?
    rw [listed 1]
    cases found <;> rfl
  rw [first]
  simp only [keeps_ofFamily] at members
  cases found with
  | nil =>
    intro record held
    rw [Bool.eq_false_iff]
    intro within
    exact absurd ((members record).mpr ⟨held, within⟩) List.not_mem_nil
  | cons record rest =>
    obtain ⟨held, within⟩ := (members record).mp List.mem_cons_self
    refine ⟨held, within, ?_⟩
    intro other otherHeld otherWithin
    rcases List.mem_cons.mp ((members other).mpr ⟨otherHeld, otherWithin⟩) with same | later
    · exact same ▸ String.le_refl _
    · exact (List.pairwise_cons.mp sorted).1 other later

end SingleFlight.Ledger

namespace SingleFlight.Files.Tree

open Text

variable {tree : Tree} {root : Path} {name : OsText} {outer : Location}

/-- A path that can be spelled leads to the directory that its names lead to. -/
theorem locate_of_leadsTo {names : List OsText} (spelled : steps? root = .ok names)
    (leads : tree.LeadsTo root outer) :
    tree.locate root = .ok outer := by
  obtain ⟨walked, node, held, isDirectory⟩ := leads
  rw [locate_of_steps spelled, (steps?_ok spelled).2.2.2, steps_eq]
  split
  next =>
    obtain ⟨left, walks⟩ := walk_append tree linkLimit (tree.origin root) (namesOf root.text)
    rw [walks, walked]
    exact (walk_dot held isDirectory).trans (walk_nil _ _ _)
  next => exact walked

/-- The path of a name in a directory is longer than that of the directory. -/
theorem Fits.steps?_root (fits : Fits root name) (filled : root.text.isEmpty = false) :
    steps? root = .ok (steps root.text) := by
  have longer := length_le_lead root
  have short := fits.short
  exact steps?_of fits.noNull filled (by omega)

/-- What can be opened in a directory is listed there. -/
theorem mem_list_of_open? {node : Node} (filled : root.text.isEmpty = false) (plain : IsPlain name) (proper : IsProper name)
    (opened : tree.open? (root.join name) = .ok node) : ∃ names, tree.list root = .ok names ∧ name ∈ names := by
  obtain ⟨location, located, held⟩ := open?_iff.mp opened
  obtain ⟨names, spelled, _⟩ := bind_ok located
  obtain ⟨fits, rfl⟩ := (steps?_join plain).mp spelled
  obtain ⟨place, entry⟩ := locateEntry_of_locate spelled proper.1 proper.2.1 located
  obtain ⟨_, outer, leads, same⟩ := (locateEntry_join plain proper).mp entry
  rw [same] at entry
  refine ⟨_, list_of_leadsTo leads (locate_of_leadsTo (fits.steps?_root filled) leads), ?_⟩
  cases standing : tree.find? (name :: outer) with
  | none =>
    -- A name that nothing stands under leads to itself, and there is nothing to open there.
    obtain rfl := Except.ok.inj (located.symm.trans (locate_of_locateEntry entry (by simp [standing])))
    rw [standing] at held
    cases held
  | some found =>
    rw [find?_child] at standing
    obtain ⟨entry, first, _⟩ := Option.map_eq_some_iff.mp standing
    have same : entry.1 = name := by simpa using List.find?_some first
    rw [← same]
    exact List.mem_map_of_mem (List.mem_of_find?_eq_some first)

end SingleFlight.Files.Tree

namespace SingleFlight.Ledger.FileStore

open Files Files.Tree

variable {root : Path} {tree : Tree} {record : RunRecord} {runId : RunId}

/-- Whether a directory lists a file under the name of a record's run, from which that record is read. -/
def Readable (root : Path) (tree : Tree) (record : RunRecord) : Prop :=
  (∃ names, tree.list root = .ok names ∧ recordName record.runId ∈ names) ∧
    get root record.runId tree = .ok (some record)

/-- What is read of a run is listed, unless the ledger has the empty path, which nothing is listed under. -/
theorem readable_iff (filled : root.text.isEmpty = false) :
    Readable root tree record ↔ get root record.runId tree = .ok (some record) := by
  refine ⟨And.right, fun got => ⟨?_, got⟩⟩
  obtain ⟨plain, proper, _⟩ := recordName_named record.runId
  unfold get at got
  split at got
  next => cases got
  next => cases got
  next content read =>
    obtain ⟨node, opened, _⟩ := bind_ok read
    exact mem_list_of_open? filled plain proper opened

theorem kept?_iff {filter : RunFilter} : kept? root filter tree runId = some record ↔
    get root runId tree = .ok (some record) ∧ filter.keeps record = true := by
  unfold kept?
  split
  next found got =>
    rw [got]
    split
    next keeps =>
      constructor
      · rintro ⟨⟩
        exact ⟨rfl, keeps⟩
      · rintro ⟨⟨⟩, _⟩
        rfl
    next notKept =>
      constructor
      · rintro ⟨⟩
      · rintro ⟨⟨⟩, keeps⟩
        exact absurd keeps notKept
  next unread =>
    constructor
    · rintro ⟨⟩
    · rintro ⟨got, _⟩
      exact absurd got (unread record)

/-- What is listed, or nothing where listing fails. -/
def listing (root : Path) (filter : RunFilter) (limit : Nat) (tree : Tree) : List RunRecord :=
  ((listRecent root filter limit tree).toOption).getD []

theorem listMatching_eq (root : Path) (filter : RunFilter) (limit : Nat) (tree : Tree) :
    (store root).listMatching filter limit tree = (listing root filter limit tree, tree) := by
  unfold RunStore.listMatching listing store
  dsimp only
  cases listRecent root filter limit tree <;> rfl

theorem listing_of_error {failure : Failure} (listed : tree.list root = .error failure) (filter : RunFilter) (limit : Nat) :
    listing root filter limit tree = [] := by
  have runs : listedRuns root tree = .ok [] ∨ ∃ fault, listedRuns root tree = .error fault := by
    unfold listedRuns
    rw [listed]
    cases failure <;> simp
  unfold listing
  rcases runs with none | ⟨fault, failed⟩
  · rw [listRecent_eq none, List.filterMap_nil, List.take_nil]
    rfl
  · unfold listRecent
    rw [failed]
    split <;> rfl

/-- A ledger of files shows what is readable in its directory. -/
theorem shows_readable (root : Path) (tree : Tree) : (store root).Shows tree (Readable root tree) := by
  intro filter
  simp only [listMatching_eq]
  cases listed : tree.list root with
  | error failure =>
    refine ⟨[], List.Pairwise.nil, by simp [Readable, listed], ?_⟩
    intro limit
    rw [listing_of_error listed, List.take_nil]
  | ok names =>
    have runs := listedRuns_of_list listed
    refine ⟨((names.filterMap namedRun?).mergeSort isLater).filterMap (kept? root filter tree), ?_, ?_, ?_⟩
    · rw [List.pairwise_filterMap]
      apply (sorted_runs _).imp
      intro first second before firstFound firstKept secondFound secondKept
      rw [runId_of_kept? firstKept, runId_of_kept? secondKept]
      exact before
    · intro record
      have named : record.runId ∈ names.filterMap namedRun? ↔ recordName record.runId ∈ names := by
        rw [List.mem_filterMap]
        constructor
        · intro given
          obtain ⟨name, nameIn, run⟩ := given
          exact name_of_namedRun? run ▸ nameIn
        · intro nameIn
          exact ⟨_, nameIn, namedRun?_recordName record.runId⟩
      rw [List.mem_filterMap, Readable]
      simp only [List.mem_mergeSort]
      constructor
      · intro given
        obtain ⟨runId, runIn, kept⟩ := given
        obtain rfl := runId_of_kept? kept
        obtain ⟨got, keeps⟩ := kept?_iff.mp kept
        exact ⟨⟨⟨names, listed, named.mp runIn⟩, got⟩, keeps⟩
      · intro given
        obtain ⟨⟨⟨others, otherwise, nameIn⟩, got⟩, keeps⟩ := given
        obtain rfl := Except.ok.inj (listed.symm.trans otherwise)
        exact ⟨record.runId, named.mpr nameIn, kept?_iff.mpr ⟨got, keeps⟩⟩
    · intro limit
      rw [listing, listRecent_eq runs]
      rfl

end SingleFlight.Ledger.FileStore
