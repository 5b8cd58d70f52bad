import SingleFlight.Proofs.Agreement
import SingleFlight.Proofs.LastNames
import SingleFlight.Proofs.Spelling
import SingleFlight.Status.Artifacts

/-!
The directory that the artifacts of a run are looked for in. Main statement: it is that of the first recorded path that
leads anywhere, or else the proof directory that was finished last, or else the last gateway directory of the time of the
run; in what order a system lists directories makes no difference.
-/

namespace SingleFlight.Status

open Files Files.Tree Text

variable {tree other : Tree} {paths : List Path} {directory root : Path} {runId : RunId}

/-- What is picked from a list in one pass is in the list, and nothing in the list exceeds it. -/
theorem foldl_pick {Item : Type} {pick : Item → Item → Item} {atMost : Item → Item → Prop} (self : ∀ item, atMost item item)
    (trans : ∀ {first second third}, atMost first second → atMost second third → atMost first third)
    (picks : ∀ first second, pick first second = first ∧ atMost second first ∨ pick first second = second ∧ atMost first second)
    (items : List Item) (first : Item) :
    items.foldl pick first ∈ first :: items ∧ ∀ item ∈ first :: items, atMost item (items.foldl pick first) := by
  -- What has been picked so far stays general: it is the head of the list that is left.
  induction items generalizing first with
  | nil =>
    rw [List.foldl_nil, List.forall_mem_singleton]
    exact ⟨List.mem_singleton_self first, self first⟩
  | cons second rest ih =>
    rw [List.foldl_cons, List.forall_mem_cons, List.forall_mem_cons]
    obtain ⟨member, greatest⟩ := ih (pick first second)
    rw [List.forall_mem_cons] at greatest
    obtain ⟨picked, greatest⟩ := greatest
    rcases picks first second with ⟨same, below⟩ | ⟨same, below⟩
    · rw [same] at member picked greatest ⊢
      exact ⟨List.mem_cons.mpr ((List.mem_cons.mp member).imp_right (List.mem_cons_of_mem second)), picked,
        trans below picked, greatest⟩
    · rw [same] at member picked greatest ⊢
      exact ⟨List.mem_cons_of_mem first member, trans below picked, picked, greatest⟩

/-- Whether one directory does not come after another: it changed before it, or at the same time and does not sort after
it. -/
def NotAfter (first second : Tree.Subdirectory) : Prop :=
  first.modified < second.modified ∨ first.modified = second.modified ∧ first.path.text ≤ second.path.text

theorem NotAfter.trans {first second third : Tree.Subdirectory} (below : NotAfter first second) (above : NotAfter second third) :
    NotAfter first third := by
  rcases below with less | ⟨same, atMost⟩ <;> rcases above with more | ⟨equal, least⟩
  · exact .inl (Int.lt_trans less more)
  · exact .inl (equal ▸ less)
  · exact .inl (same ▸ more)
  · exact .inr ⟨same.trans equal, List.le_trans atMost least⟩

theorem NotAfter.total (first second : Tree.Subdirectory) : NotAfter first second ∨ NotAfter second first := by
  rcases Int.lt_trichotomy first.modified second.modified with less | same | more
  · exact .inl (.inl less)
  · exact (List.le_total first.path.text second.path.text).imp (.inr ⟨same, ·⟩) (.inr ⟨same.symm, ·⟩)
  · exact .inr (.inl more)

theorem path_of_notAfter {first second : Tree.Subdirectory} (below : NotAfter first second) (above : NotAfter second first) :
    first.path = second.path := by
  rcases below with less | ⟨same, atMost⟩
  · rcases above with more | ⟨same, _⟩ <;> omega
  · rcases above with more | ⟨_, atLeast⟩
    · omega
    · exact congrArg Path.mk (List.le_antisymm atMost atLeast)

theorem latest?_spec {directories : List Tree.Subdirectory} {found : Tree.Subdirectory} (latest : latest? directories = some found) :
    found ∈ directories ∧ ∀ directory ∈ directories, NotAfter directory found := by
  cases directories with
  | nil => cases latest
  | cons first rest =>
    obtain rfl := Option.some.inj latest
    apply foldl_pick
    · exact fun directory => .inr ⟨rfl, List.le_refl _⟩
    · exact fun below above => below.trans above
    · intro first second
      unfold later
      split
      next below => exact .inl ⟨rfl, below⟩
      next notBelow => exact .inr ⟨rfl, (NotAfter.total first second).resolve_right notBelow⟩

theorem lastPath?_spec {candidates : List Path} {found : Path} (last : lastPath? candidates = some found) :
    found ∈ candidates ∧ ∀ path ∈ candidates, path.text ≤ found.text := by
  cases candidates with
  | nil => cases last
  | cons first rest =>
    obtain rfl := Option.some.inj last
    refine @foldl_pick Path _ (·.text ≤ ·.text) (fun path => List.le_refl path.text) List.le_trans ?_ rest first
    · intro first second
      split
      next atMost => exact .inr ⟨rfl, atMost⟩
      next notAtMost => exact .inl ⟨rfl, (List.le_total _ _).resolve_left notAtMost⟩

/-- Whether a path leads to a directory or to a file. -/
def IsThere (tree : Tree) (path : Path) : Prop := tree.isDirectory path = true ∨ tree.isFile path = true

/-- Whether a directory is what the first of some paths names that leads anywhere: the path itself, or what stands around
the file that it leads to. -/
def IsRecorded (tree : Tree) (paths : List Path) (directory : Path) : Prop :=
  ∃ before path after, paths = before ++ path :: after ∧ (∀ earlier ∈ before, ¬IsThere tree earlier) ∧
    (tree.isDirectory path = true ∧ directory = path ∨ tree.isFile path = true ∧ path.parent? = some directory)

/-- Whether a directory with a name, that changed at a time, stands right below a root and has a proof in it. -/
def IsFinishedAt (tree : Tree) (root : Path) (name : OsText) (modified : Int) : Prop :=
  tree.HasDirectory root name modified ∧ tree.isFile ((root.join name).join "proof.json") = true

/-- Whether a directory is the finished one below a root that changed last, and sorts last of those that did. -/
def IsLastFinished (tree : Tree) (root directory : Path) : Prop :=
  ∃ name modified, IsFinishedAt tree root name modified ∧ directory = root.join name ∧
    ∀ other time, IsFinishedAt tree root other time →
      time < modified ∨ time = modified ∧ (root.join other).text ≤ (root.join name).text

/-- Whether a directory with a name stands right below a root, and its last name is UTF-8 and starts as a run id
does. -/
def IsStamped (tree : Tree) (root : Path) (runId : RunId) (name : OsText) : Prop :=
  (∃ modified, tree.HasDirectory root name modified) ∧
    ∃ last : String, (root.join name).fileName? = some ↑last ∧ startsWith last runId.timestampComponent = true

/-- Whether a directory sorts last of those below a root that start as a run id does. -/
def IsLastStamped (tree : Tree) (root : Path) (runId : RunId) (directory : Path) : Prop :=
  ∃ name, IsStamped tree root runId name ∧ directory = root.join name ∧
    ∀ other, IsStamped tree root runId other → (root.join other).text ≤ (root.join name).text

/-- The choice of a directory for a run: of what its record names, or else of what is finished below a root, or else of what
is named for the time of the run below another one. -/
inductive Chosen (tree : Tree) (record : RunRecord) (proofRoot gatewayRoot : Option Path) : Option Path → Prop where
  | recorded {directory : Path} (named : IsRecorded tree record.artifactPaths directory) :
    Chosen tree record proofRoot gatewayRoot (some directory)
  | finished {root directory : Path} (nothing : ∀ path ∈ record.artifactPaths, ¬IsThere tree path)
    (configured : proofRoot = some root) (last : IsLastFinished tree root directory) :
    Chosen tree record proofRoot gatewayRoot (some directory)
  | stamped {root directory : Path} (nothing : ∀ path ∈ record.artifactPaths, ¬IsThere tree path)
    (unfinished : ∀ root, proofRoot = some root → ∀ name modified, ¬IsFinishedAt tree root name modified)
    (configured : gatewayRoot = some root) (last : IsLastStamped tree root record.runId directory) :
    Chosen tree record proofRoot gatewayRoot (some directory)
  | nowhere (nothing : ∀ path ∈ record.artifactPaths, ¬IsThere tree path)
    (unfinished : ∀ root, proofRoot = some root → ∀ name modified, ¬IsFinishedAt tree root name modified)
    (unstamped : ∀ root, gatewayRoot = some root → ∀ name, ¬IsStamped tree root record.runId name) :
    Chosen tree record proofRoot gatewayRoot none

theorem not_isFile_of_isDirectory {path : Path} (isDirectory : tree.isDirectory path = true) : tree.isFile path = false := by
  unfold Tree.isDirectory at isDirectory
  unfold Tree.isFile
  split at isDirectory
  next node opened =>
    cases node <;> simp [Files.Node.isDirectory, Files.Node.isFile] at isDirectory ⊢
  next => rfl

theorem artifactDirectory?_eq_some {path : Path} : artifactDirectory? tree path = some directory ↔
    tree.isDirectory path = true ∧ directory = path ∨ tree.isFile path = true ∧ path.parent? = some directory := by
  unfold artifactDirectory?
  cases isDirectory : tree.isDirectory path with
  | false => cases tree.isFile path <;> simp
  | true =>
    have noFile : tree.isFile path = false := not_isFile_of_isDirectory isDirectory
    simp [noFile, eq_comm]

theorem artifactDirectory?_eq_none {path : Path} : artifactDirectory? tree path = none ↔ ¬IsThere tree path := by
  unfold artifactDirectory? IsThere
  cases tree.isDirectory path with
  | true => simp
  | false =>
    cases isFile : tree.isFile path with
    | false => simp
    | true =>
      obtain ⟨outer, above⟩ := Tree.parent_of_isFile isFile
      simp [above]

theorem recordedDirectory?_eq_some {record : RunRecord} :
    recordedDirectory? tree record = some directory ↔ IsRecorded tree record.artifactPaths directory := by
  unfold recordedDirectory? IsRecorded
  simp only [List.findSome?_eq_some_iff, artifactDirectory?_eq_none, artifactDirectory?_eq_some]
  grind

theorem recordedDirectory?_eq_none {record : RunRecord} :
    recordedDirectory? tree record = none ↔ ∀ path ∈ record.artifactPaths, ¬IsThere tree path := by
  simp only [recordedDirectory?, List.findSome?_eq_none_iff, artifactDirectory?_eq_none]

theorem mem_finished {candidate : Tree.Subdirectory} : candidate ∈ (tree.subdirectories root).filter (isFinished tree) ↔
    ∃ name, IsFinishedAt tree root name candidate.modified ∧ candidate.path = root.join name := by
  rw [List.mem_filter, Tree.mem_subdirectories]
  constructor
  · rintro ⟨⟨name, has, same⟩, finished⟩
    rw [isFinished, same] at finished
    exact ⟨name, ⟨has, finished⟩, same⟩
  · rintro ⟨name, ⟨has, finished⟩, same⟩
    refine ⟨⟨name, has, same⟩, ?_⟩
    rwa [isFinished, same]

theorem latest?_eq_none {directories : List Tree.Subdirectory} : latest? directories = none ↔ directories = [] := by
  cases directories <;> simp [latest?]

theorem lastPath?_eq_none {candidates : List Path} : lastPath? candidates = none ↔ candidates = [] := by
  cases candidates <;> simp [lastPath?]

theorem proofDirectory?_eq_none :
    proofDirectory? tree root = none ↔ ∀ name modified, ¬IsFinishedAt tree root name modified := by
  rw [proofDirectory?, Option.map_eq_none_iff, latest?_eq_none, List.eq_nil_iff_forall_not_mem]
  simp only [mem_finished]
  constructor
  · exact fun none name modified finished => none ⟨root.join name, modified⟩ ⟨name, finished, rfl⟩
  · rintro none candidate ⟨name, finished, _⟩
    exact none name candidate.modified finished

theorem isLastFinished_of_proofDirectory? (found : proofDirectory? tree root = some directory) :
    IsLastFinished tree root directory := by
  obtain ⟨latest, picked, rfl⟩ := Option.map_eq_some_iff.mp found
  obtain ⟨member, greatest⟩ := latest?_spec picked
  obtain ⟨name, finished, same⟩ := mem_finished.mp member
  refine ⟨name, latest.modified, finished, same, ?_⟩
  intro other time finishedOther
  have notAfter := greatest ⟨root.join other, time⟩ (mem_finished.mpr ⟨other, finishedOther, rfl⟩)
  rwa [NotAfter, same] at notAfter

theorem IsLastFinished.unique {second : Path} (last : IsLastFinished tree root directory)
    (lastToo : IsLastFinished tree root second) : directory = second := by
  obtain ⟨name, modified, finished, rfl, greatest⟩ := last
  obtain ⟨other, time, finishedOther, rfl, greatestToo⟩ := lastToo
  exact @path_of_notAfter ⟨_, _⟩ ⟨_, _⟩ (greatestToo name modified finished) (greatest other time finishedOther)

theorem proofDirectory?_eq_some : proofDirectory? tree root = some directory ↔ IsLastFinished tree root directory := by
  constructor
  · exact isLastFinished_of_proofDirectory?
  · intro last
    cases found : proofDirectory? tree root with
    | none =>
      obtain ⟨name, modified, finished, _⟩ := last
      exact absurd finished (proofDirectory?_eq_none.mp found name modified)
    | some other => rw [(isLastFinished_of_proofDirectory? found).unique last]

theorem mem_stamped {path : Path} : path ∈ ((tree.subdirectories root).filter (isNamedFor runId)).map (·.path) ↔
    ∃ name, IsStamped tree root runId name ∧ path = root.join name := by
  simp only [List.mem_map, List.mem_filter, Tree.mem_subdirectories, isNamedFor, Option.any_eq_true,
    Option.bind_eq_some_iff, OsText.text?_iff, exists_eq_right]
  constructor
  · rintro ⟨candidate, ⟨⟨name, has, same⟩, last, isLast, starts⟩, rfl⟩
    rw [same] at isLast
    exact ⟨name, ⟨⟨candidate.modified, has⟩, last, isLast, starts⟩, same⟩
  · rintro ⟨name, ⟨⟨modified, has⟩, stamped⟩, rfl⟩
    exact ⟨⟨root.join name, modified⟩, ⟨⟨name, has, rfl⟩, stamped⟩, rfl⟩

theorem timestampDirectory?_eq_none :
    timestampDirectory? tree root runId = none ↔ ∀ name, ¬IsStamped tree root runId name := by
  rw [timestampDirectory?, lastPath?_eq_none, List.eq_nil_iff_forall_not_mem]
  simp only [mem_stamped]
  constructor
  · exact fun none name stamped => none (root.join name) ⟨name, stamped, rfl⟩
  · rintro none path ⟨name, stamped, _⟩
    exact none name stamped

theorem isLastStamped_of_timestampDirectory? (found : timestampDirectory? tree root runId = some directory) :
    IsLastStamped tree root runId directory := by
  obtain ⟨member, greatest⟩ := lastPath?_spec found
  obtain ⟨name, stamped, rfl⟩ := mem_stamped.mp member
  exact ⟨name, stamped, rfl, fun other stampedOther => greatest _ (mem_stamped.mpr ⟨other, stampedOther, rfl⟩)⟩

theorem IsLastStamped.unique {second : Path} (last : IsLastStamped tree root runId directory)
    (lastToo : IsLastStamped tree root runId second) : directory = second := by
  obtain ⟨name, stamped, rfl, greatest⟩ := last
  obtain ⟨other, stampedOther, rfl, greatestToo⟩ := lastToo
  exact congrArg Path.mk (List.le_antisymm (greatestToo name stamped) (greatest other stampedOther))

theorem timestampDirectory?_eq_some :
    timestampDirectory? tree root runId = some directory ↔ IsLastStamped tree root runId directory := by
  constructor
  · exact isLastStamped_of_timestampDirectory?
  · intro last
    cases found : timestampDirectory? tree root runId with
    | none =>
      obtain ⟨name, stamped, _⟩ := last
      exact absurd stamped (timestampDirectory?_eq_none.mp found name)
    | some other => rw [(isLastStamped_of_timestampDirectory? found).unique last]

theorem isStamped_iff {name : OsText} (plain : Tree.IsPlain name) (noDot : name ≠ OsText.dot)
    (noDots : name ≠ OsText.dots) :
    IsStamped tree root runId name ↔
      (∃ modified, tree.HasDirectory root name modified) ∧
        ∃ text : String, name = ↑text ∧ startsWith text runId.timestampComponent = true := by
  simp [IsStamped, Path.fileName?_join root plain noDot noDots]

section Choice

variable {record : RunRecord} {proofRoot gatewayRoot : Option Path}

theorem findDirectory?_of_recorded (named : IsRecorded tree record.artifactPaths directory) (proofRoot gatewayRoot : Option Path) :
    findDirectory? tree record proofRoot gatewayRoot = some directory := by
  rw [findDirectory?, recordedDirectory?_eq_some.mpr named, Option.some_or]

theorem findDirectory?_of_finished (nothing : ∀ path ∈ record.artifactPaths, ¬IsThere tree path)
    (last : IsLastFinished tree root directory) (gatewayRoot : Option Path) :
    findDirectory? tree record (some root) gatewayRoot = some directory := by
  rw [findDirectory?, recordedDirectory?_eq_none.mpr nothing, Option.none_or, Option.bind_some,
    proofDirectory?_eq_some.mpr last, Option.some_or]

theorem findDirectory?_of_unfinished (nothing : ∀ path ∈ record.artifactPaths, ¬IsThere tree path)
    (unfinished : ∀ root, proofRoot = some root → ∀ name modified, ¬IsFinishedAt tree root name modified)
    (gatewayRoot : Option Path) :
    findDirectory? tree record proofRoot gatewayRoot = gatewayRoot.bind (timestampDirectory? tree · record.runId) := by
  have noProof : proofRoot.bind (proofDirectory? tree) = none :=
    Option.bind_eq_none_iff.mpr fun root configured => proofDirectory?_eq_none.mpr (unfinished root configured)
  rw [findDirectory?, recordedDirectory?_eq_none.mpr nothing, noProof, Option.none_or, Option.none_or]

theorem findDirectory?_of_chosen {answer : Option Path} (chosen : Chosen tree record proofRoot gatewayRoot answer) :
    findDirectory? tree record proofRoot gatewayRoot = answer := by
  cases chosen with
  | recorded named => exact findDirectory?_of_recorded named proofRoot gatewayRoot
  | finished nothing configured last =>
    rw [configured]
    exact findDirectory?_of_finished nothing last gatewayRoot
  | stamped nothing unfinished configured last =>
    rw [findDirectory?_of_unfinished nothing unfinished, configured, Option.bind_some, timestampDirectory?_eq_some]
    exact last
  | nowhere nothing unfinished unstamped =>
    rw [findDirectory?_of_unfinished nothing unfinished, Option.bind_eq_none_iff]
    exact fun root configured => timestampDirectory?_eq_none.mpr (unstamped root configured)

/-- Some choice is always open: the ranks leave no case out. -/
theorem exists_chosen (tree : Tree) (record : RunRecord) (proofRoot gatewayRoot : Option Path) :
    ∃ answer, Chosen tree record proofRoot gatewayRoot answer := by
  cases named : recordedDirectory? tree record with
  | some directory => exact ⟨_, .recorded (recordedDirectory?_eq_some.mp named)⟩
  | none =>
    have nothing := recordedDirectory?_eq_none.mp named
    cases finished : proofRoot.bind (proofDirectory? tree) with
    | some directory =>
      obtain ⟨root, configured, found⟩ := Option.bind_eq_some_iff.mp finished
      exact ⟨_, .finished nothing configured (proofDirectory?_eq_some.mp found)⟩
    | none =>
      have unfinished (root : Path) (configured : proofRoot = some root) :=
        proofDirectory?_eq_none.mp (Option.bind_eq_none_iff.mp finished root configured)
      cases stamped : gatewayRoot.bind (timestampDirectory? tree · record.runId) with
      | some directory =>
        obtain ⟨root, configured, found⟩ := Option.bind_eq_some_iff.mp stamped
        exact ⟨_, .stamped nothing unfinished configured (timestampDirectory?_eq_some.mp found)⟩
      | none =>
        have unstamped (root : Path) (configured : gatewayRoot = some root) :=
          timestampDirectory?_eq_none.mp (Option.bind_eq_none_iff.mp stamped root configured)
        exact ⟨none, .nowhere nothing unfinished unstamped⟩

theorem findDirectory?_iff {answer : Option Path} :
    findDirectory? tree record proofRoot gatewayRoot = answer ↔ Chosen tree record proofRoot gatewayRoot answer := by
  constructor
  · obtain ⟨chosenAnswer, chosen⟩ := exists_chosen tree record proofRoot gatewayRoot
    rw [findDirectory?_of_chosen chosen]
    rintro rfl
    exact chosen
  · exact findDirectory?_of_chosen

theorem Chosen.reordered {answer : Option Path} (reordered : tree.Reordered other)
    (chosen : Chosen tree record proofRoot gatewayRoot answer) : Chosen other record proofRoot gatewayRoot answer := by
  have there (path : Path) : IsThere other path ↔ IsThere tree path := by
    rw [IsThere, reordered.isDirectory, reordered.isFile, IsThere]
  have recorded (directory : Path) : IsRecorded other record.artifactPaths directory ↔
      IsRecorded tree record.artifactPaths directory := by
    simp only [IsRecorded, there, reordered.isDirectory, reordered.isFile]
  have finishedAt (root : Path) (name : OsText) (modified : Int) : IsFinishedAt other root name modified ↔
      IsFinishedAt tree root name modified := by
    rw [IsFinishedAt, reordered.hasDirectory, reordered.isFile, IsFinishedAt]
  have stampedFor (root : Path) (name : OsText) : IsStamped other root record.runId name ↔
      IsStamped tree root record.runId name := by
    simp only [IsStamped, reordered.hasDirectory]
  cases chosen with
  | recorded named => exact .recorded ((recorded _).mpr named)
  | finished nothing configured last =>
    refine .finished (by simpa only [there] using nothing) configured ?_
    simpa only [IsLastFinished, finishedAt] using last
  | stamped nothing unfinished configured last =>
    refine .stamped (by simpa only [there] using nothing) (by simpa only [finishedAt] using unfinished) configured ?_
    simpa only [IsLastStamped, stampedFor] using last
  | nowhere nothing unfinished unstamped =>
    exact .nowhere (by simpa only [there] using nothing) (by simpa only [finishedAt] using unfinished)
      (by simpa only [stampedFor] using unstamped)

/-- The directory of a run is found by rank: what its record names, or else the last finished one, or else the last one of
its time. The order in which directories are listed makes no difference, and neither does a lower rank once a higher one
has an answer. -/
theorem found_by_rank (tree : Tree) (record : RunRecord) (proofRoot gatewayRoot : Option Path) :
    (∀ answer, findDirectory? tree record proofRoot gatewayRoot = answer ↔
      Chosen tree record proofRoot gatewayRoot answer) ∧
    (∀ other, tree.Reordered other →
      findDirectory? other record proofRoot gatewayRoot = findDirectory? tree record proofRoot gatewayRoot) ∧
    (∀ directory, IsRecorded tree record.artifactPaths directory → ∀ otherProofRoot otherGatewayRoot,
      findDirectory? tree record otherProofRoot otherGatewayRoot = some directory) ∧
    (∀ root directory, (∀ path ∈ record.artifactPaths, ¬IsThere tree path) → IsLastFinished tree root directory →
      ∀ otherGatewayRoot, findDirectory? tree record (some root) otherGatewayRoot = some directory) ∧
    (∀ root name, Tree.IsPlain name → name ≠ OsText.dot → name ≠ OsText.dots →
      (IsStamped tree root record.runId name ↔
      (∃ modified, tree.HasDirectory root name modified) ∧
        ∃ text : String, name = ↑text ∧ startsWith text record.runId.timestampComponent = true)) := by
  refine ⟨fun answer => findDirectory?_iff, ?_, ?_, ?_, ?_⟩
  · intro other reordered
    rw [findDirectory?_iff]
    exact (findDirectory?_iff.mp rfl).reordered reordered
  · exact fun directory named => findDirectory?_of_recorded named
  · exact fun root directory nothing last => findDirectory?_of_finished nothing last
  · exact fun root name plain noDot noDots => isStamped_iff plain noDot noDots

end Choice

/-- A record that names no artifacts. -/
def artless : RunRecord := { Ledger.sample with artifactPaths := [] }

/-- A name that starts as the run id of the sample does, and is not UTF-8. -/
def strayName : OsText := Utf8.ofString "20260101T000000Z-" ++ [0xFF]

theorem isPlain_strayName : IsPlain strayName := ⟨by decide, by decide, by decide⟩

theorem not_isText_strayName (text : String) : strayName ≠ ↑text := by
  have unspelled : strayName.isText = false := by decide +kernel
  intro same
  rw [same, OsText.isText_ofString] at unspelled
  cases unspelled

/-- A directory with nothing in it but another one of that name. -/
def strayTree : Tree where
  nodes := [([], .directory 0), (["work"], .directory 0), ([strayName, "work"], .directory 5)]
  here := ["work"]
  distinct := by decide

theorem entries_strayTree : strayTree.entries (.ofText "/work") = .ok [(strayName, .directory 5)] :=
  entries_iff.mpr ⟨["work"], .directory 0, (Ledger.leads_work strayTree rfl rfl).2, rfl, rfl, rfl⟩

/-- A directory of proofs with a finished one in it. -/
def provenTree : Tree where
  nodes := [([], .directory 0), (["work"], .directory 0), (["x", "work"], .directory 5),
    (["proof.json", "x", "work"], .file [])]
  here := ["work"]
  distinct := by decide

theorem entries_provenTree : provenTree.entries Ledger.farWork = .ok [("x", .directory 5)] :=
  entries_iff.mpr ⟨["work"], .directory 0, Ledger.locate_farWork rfl rfl, rfl, rfl, rfl⟩

theorem hasDirectory_single {name own : OsText} {modified time : Int}
    (alone : tree.entries root = .ok [(own, .directory time)]) :
    tree.HasDirectory root name modified ↔ name = own ∧ modified = time := by
  simp [HasDirectory, alone]

/-- A proof that stands further away than a path can lead. -/
theorem not_isFinishedAt_far (tree : Tree) (modified : Int) : ¬IsFinishedAt tree Ledger.farWork "x" modified := by
  rintro ⟨_, isFile⟩
  obtain ⟨_, opened, _⟩ := isFile_iff.mp isFile
  obtain ⟨_, located, _⟩ := open?_iff.mp opened
  obtain ⟨_, spelled, _⟩ := bind_ok located
  have short := (steps?_ok spelled).2.2.1
  have spelledFile : IsPlain "proof.json" := ⟨by decide, by decide, by decide⟩
  have spelledName : IsPlain "x" := ⟨by decide, by decide, by decide⟩
  have near := length_le_lead Ledger.farWork
  have far := length_le_lead (Ledger.farWork.join "x")
  rw [join_text _ spelledFile, List.length_append] at short
  rw [join_text _ spelledName, List.length_append] at far
  rw [Ledger.length_farWork] at near
  have size : (Utf8.ofString "x").length = 1 ∧ (Utf8.ofString "proof.json").length = 10 ∧
      longestPath = 4095 := by decide
  omega

/-- A directory that starts as a run id does is passed over where its name is not UTF-8, and so is one with a
proof in it where no path is long enough to lead to that proof. -/
theorem directories_passed_over :
    strayTree.HasDirectory (.ofText "/work") strayName 5 ∧
    Utf8.ofString artless.runId.timestampComponent <+: strayName ∧
    findDirectory? strayTree artless none (some (.ofText "/work")) = none ∧
    provenTree.HasDirectory Ledger.farWork "x" 5 ∧ provenTree.locate Ledger.farWork = .ok ["work"] ∧
    provenTree.find? ["proof.json", "x", "work"] = some (.file []) ∧
    findDirectory? provenTree artless (some Ledger.farWork) none = none := by
  refine ⟨(hasDirectory_single entries_strayTree).mpr ⟨rfl, rfl⟩, by decide, ?_,
    (hasDirectory_single entries_provenTree).mpr ⟨rfl, rfl⟩, Ledger.locate_farWork rfl rfl, rfl, ?_⟩
  · rw [findDirectory?_iff]
    refine .nowhere (by simp [artless]) nofun ?_
    rintro root ⟨⟩ name ⟨⟨modified, has⟩, last, named, _⟩
    obtain ⟨rfl, _⟩ := (hasDirectory_single entries_strayTree).mp has
    rw [Path.fileName?_join _ isPlain_strayName (by decide) (by decide)] at named
    exact not_isText_strayName last (Option.some.inj named)
  · rw [findDirectory?_iff]
    refine .nowhere (by simp [artless]) ?_ nofun
    intro root configured name modified finished
    rw [← Option.some.inj configured] at finished
    obtain ⟨rfl, _⟩ := (hasDirectory_single entries_provenTree).mp finished.1
    exact not_isFinishedAt_far _ _ finished
end SingleFlight.Status
