import SingleFlight.Proofs.Enumeration
import SingleFlight.Proofs.Readings
import SingleFlight.Proofs.Safekeeping

/-!
A ledger of files reads nothing but the files of its runs. Main statement: two trees that read alike in the files of
a directory that are named for runs are one and the same ledger, whatever else there is beside these files.
-/

namespace SingleFlight

open Text

/-- A run id is spelled with one to 128 bytes, all of them ASCII letters, digits and hyphens. -/
theorem isRunId_iff (text : String) : isRunId text = true ↔ text ≠ "" ∧ text.utf8ByteSize ≤ 128 ∧
    ∀ c ∈ text.toList, ('A' ≤ c ∧ c ≤ 'Z') ∨ ('a' ≤ c ∧ c ≤ 'z') ∨ ('0' ≤ c ∧ c ≤ '9') ∨ c = '-' := by
  have filled : (!text.toList.isEmpty) = true ↔ text ≠ "" := by
    rw [Bool.not_eq_true', List.isEmpty_eq_false_iff, ne_eq, String.toList_eq_nil_iff]
  -- The bound counts bytes, and these are as many as the characters once every character is known to be ASCII.
  have size (chars : ∀ c ∈ text.toList, isRunIdChar c = true) : text.utf8ByteSize = text.toList.length := by
    rw [← Utf8.length_ofString]
    apply Utf8.length_ofString_of_ascii
    intro c found
    have isName : Ledger.FileStore.isNameChar c = true := by
      rw [Ledger.FileStore.isNameChar, chars c found, Bool.true_or]
    exact (Ledger.FileStore.ascii_of_isNameChar isName).1
  simp only [isRunId, Bool.and_eq_true, decide_eq_true_eq, List.all_eq_true, filled, ← isRunIdChar_iff, and_assoc]
  constructor
  · rintro ⟨some, short, chars⟩
    exact ⟨some, (size chars).symm ▸ short, chars⟩
  · rintro ⟨some, short, chars⟩
    exact ⟨some, size chars ▸ short, chars⟩

end SingleFlight

namespace SingleFlight.Files.Tree

open Text

variable {tree : Tree} {root : Path} {names : List OsText}

theorem nodup_list (listed : tree.list root = .ok names) : names.Nodup := by
  obtain ⟨entries, opened, same⟩ := bind_ok listed
  cases same
  obtain ⟨location, _, _, _, _, rfl⟩ := entries_iff.mp opened
  exact nodup_children tree location

end SingleFlight.Files.Tree

namespace SingleFlight.Ledger.FileStore

open Files Files.Tree Text

variable {root : Path} {tree other : Tree} {outer location : Location} {runId : RunId} {record : RunRecord} {node : Node}

/-- No run is listed twice. -/
theorem nodup_listing (root : Path) (filter : RunFilter) (limit : Nat) (tree : Tree) :
    ((listing root filter limit tree).map (·.runId)).Nodup := by
  cases listed : tree.list root with
  | error failure =>
    rw [listing_of_error listed]
    exact List.nodup_nil
  | ok names =>
    have runs := listedRuns_of_list listed
    have distinct : ((names.filterMap namedRun?).mergeSort isLater).Nodup := by
      rw [(List.mergeSort_perm _ _).nodup_iff]
      apply (nodup_list listed).filterMap
      intro first second run firstNamed secondNamed
      rw [name_of_namedRun? firstNamed, name_of_namedRun? secondNamed]
    rw [listing, listRecent_eq runs]
    apply List.Nodup.sublist ((List.take_sublist _ _).map _)
    rw [List.Nodup, List.pairwise_map, List.pairwise_filterMap]
    apply distinct.imp
    intro first second different firstFound firstKept secondFound secondKept
    rw [runId_of_kept? firstKept, runId_of_kept? secondKept]
    exact different

theorem list_of_isEmpty (empty : root.text.isEmpty = true) : tree.list root = .error .missing := by
  obtain rfl : root = Path.empty := by
    cases root
    rw [List.isEmpty_iff] at empty
    cases empty
    rfl
  rfl

/-- What is readable in a directory is settled by what is read of each run. -/
theorem readable_congr (same : ∀ runId, get root runId tree = get root runId other) :
    Readable root tree record ↔ Readable root other record := by
  cases empty : root.text.isEmpty with
  | true => simp [Readable, list_of_isEmpty empty]
  | false => rw [readable_iff empty, readable_iff empty, same]

/-- Two directories that the same records are readable in are listed alike. -/
theorem listing_congr (same : ∀ record, Readable root tree record ↔ Readable root other record) (filter : RunFilter)
    (limit : Nat) : listing root filter limit tree = listing root filter limit other := by
  obtain ⟨first, firstSorted, firstIn, firstListed⟩ := shows_readable root tree filter
  obtain ⟨second, secondSorted, secondIn, secondListed⟩ := shows_readable root other filter
  simp only [listMatching_eq] at firstListed secondListed
  have distinct (found : List RunRecord) (tree : Tree)
      (listed : ∀ limit, listing root filter limit tree = found.take limit) :
      (found.map (·.runId)).Nodup := by
    have whole := nodup_listing root filter found.length tree
    rwa [listed, List.take_length] at whole
  have firstDistinct := distinct first tree firstListed
  have alike : first = second := by
    apply List.Perm.eq_of_pairwise _ firstSorted secondSorted
    · rw [List.perm_ext_iff_of_nodup firstDistinct.of_map (distinct second other secondListed).of_map]
      intro record
      rw [firstIn, secondIn, same]
    · intro one another oneIn anotherIn before after
      rw [secondIn, ← same, ← firstIn] at anotherIn
      exact List.inj_on_of_nodup_map firstDistinct oneIn anotherIn (RunId.eq_of_text (String.le_antisymm after before))
  rw [firstListed, secondListed, alike]

/-- What is put beside the file of a run is not read with it, if that file is no link. -/
theorem read_put (leads : tree.LeadsTo root outer) (vacant : tree.find? location = none) (noLink : node.isLink = false)
    (apart : recordName runId :: outer ≠ location)
    (straight : ∀ target, tree.find? (recordName runId :: outer) ≠ some (.link target)) :
    (tree.put location node).read (recordPath root runId) = tree.read (recordPath root runId) := by
  have follows := (grows_put vacant noLink).follows
  have same : (tree.put location node).open? (recordPath root runId) = tree.open? (recordPath root runId) := by
    cases spelled : steps? (recordPath root runId) with
    | error failure =>
      unfold open?
      rw [locate_eq, locate_eq, spelled]
      rfl
    | ok names =>
      obtain ⟨plain, proper, _⟩ := recordName_named runId
      obtain ⟨fits, rfl⟩ := (steps?_join plain).mp (recordPath_eq root runId ▸ spelled)
      have entry : tree.locateEntry (recordPath root runId) = .ok (some (recordName runId :: outer)) :=
        (locateEntry_join plain proper).mpr ⟨fits, outer, leads, rfl⟩
      have found : (tree.put location node).find? (recordName runId :: outer) = tree.find? (recordName runId :: outer) := by
        rw [find?_put, if_neg apart]
      unfold open?
      rw [locate_of_locateEntry entry straight, locate_of_locateEntry (follows.locateEntry entry) (by rwa [found])]
      simp only [bind, Except.bind, found]
  unfold Tree.read
  rw [same]

/-- A text that is no run id is not looked for. -/
theorem read_of_foreign {text : String} (foreign : isRunId text = false) : (store root).read text tree = (none, tree) := by
  unfold RunStore.read RunId.ofText?
  rw [dif_neg (by rw [foreign]; decide)]

/-- What is read under a text is of the run of that name. -/
theorem text_of_read {text : String} (found : ((store root).read text tree).1 = some record) : record.runId.text = text := by
  cases valid : isRunId text with
  | false =>
    rw [read_of_foreign valid] at found
    cases found
  | true =>
    have named := RunStore.read_text (store root) ⟨text, valid⟩ tree
    rw [found, store_get] at named
    split at named
    next answer got =>
      subst named
      exact congrArg RunId.text (runId_of_get got)
    next => cases named

/-- A ledger of files answers alike over any two trees that read alike in the files of its directory that are named for
runs: what is read under a text, what is listed, and what is the latest run of a family. The path of such a file leads
nowhere but to an entry of the directory itself. A text that is no run id is not looked for, and what is read
under a text is of the run of that name. -/
theorem reads_stay_inside (alike : ∀ runId : RunId,
      tree.read (root.join (runId.text ++ ".json" : String)) =
        other.read (root.join (runId.text ++ ".json" : String))) :
    (∀ text, ((store root).read text tree).1 = ((store root).read text other).1) ∧
    (∀ filter limit, ((store root).listMatching filter limit tree).1 = ((store root).listMatching filter limit other).1) ∧
    (∀ family, ((store root).latest family tree).1 = ((store root).latest family other).1) ∧
    (∀ (runId : RunId) location, tree.locateEntry (root.join (runId.text ++ ".json" : String)) =
      .ok (some location) →
      ∃ outer, tree.LeadsTo root outer ∧ location = ↑(runId.text ++ ".json") :: outer) ∧
    (∀ text : String, text = "" ∨ 128 < text.utf8ByteSize ∨
        (∃ c ∈ text.toList, ¬(('A' ≤ c ∧ c ≤ 'Z') ∨ ('a' ≤ c ∧ c ≤ 'z') ∨ ('0' ≤ c ∧ c ≤ '9') ∨ c = '-')) →
      (store root).read text tree = (none, tree)) ∧
    (∀ text record, ((store root).read text tree).1 = some record → record.runId.text = text) := by
  have got (runId : RunId) : get root runId tree = get root runId other := by
    unfold get
    rw [recordPath_eq, recordName, alike runId]
  have listed (filter : RunFilter) (limit : Nat) :
      ((store root).listMatching filter limit tree).1 = ((store root).listMatching filter limit other).1 := by
    rw [listMatching_eq, listMatching_eq]
    exact listing_congr (fun record => readable_congr got) filter limit
  refine ⟨?_, listed, ?_, ?_, ?_, ?_⟩
  · intro text
    unfold RunStore.read
    cases RunId.ofText? text with
    | none => rfl
    | some runId =>
      simp only [store_get, got runId]
      cases get root runId other <;> rfl
  · intro family
    exact congrArg List.head? (listed (.ofFamily family) 1)
  · intro runId location entry
    obtain ⟨plain, proper, _⟩ := recordName_named runId
    exact ((locateEntry_join plain proper).mp entry).2
  · intro text refused
    apply read_of_foreign
    rw [Bool.eq_false_iff, ne_eq, isRunId_iff]
    rintro ⟨filled, short, chars⟩
    rcases refused with empty | long | ⟨c, found, foreign⟩
    · exact filled empty
    · exact absurd short (Nat.not_le.mpr long)
    · exact foreign (chars c found)
  · intro text record found
    exact text_of_read found

/-- A ledger with the record of one run in it. -/
def sampleLedger : Tree := Tree.empty.put [recordName sample.runId, "work"] (.file (payload sample))

/-- The same ledger, with a record that was put next to its directory, and a staging file that was left in it. -/
def plantedLedger : Tree :=
  (sampleLedger.put [recordName neighbour.runId] (.file (payload neighbour))).put [stagingName neighbour.runId 7, "work"]
    (.file (payload neighbour))

theorem reads_stay_inside_planted :
    (∀ runId : RunId, sampleLedger.read (Path.join (.ofText "/work") (runId.text ++ ".json" : String)) =
      plantedLedger.read (Path.join (.ofText "/work") (runId.text ++ ".json" : String))) ∧
    ((store (.ofText "/work")).read sample.runId.text plantedLedger).1 = some sample ∧
    ((store (.ofText "/work")).read ("../" ++ neighbour.runId.text) plantedLedger).1 = none ∧
    ((store (.ofText "/work")).listMatching .everything 5 plantedLedger).1 = [sample] := by
  have noFile (tree : Tree) (runId : RunId) (target : OsText)
      (held : tree.find? [recordName runId, "work"] = sampleLedger.find? [recordName runId, "work"]) :
      tree.find? [recordName runId, "work"] ≠ some (.link target) := by
    rw [held, sampleLedger, find?_put]
    split
    next => nofun
    next => simp [Tree.empty, Tree.find?]
  have alike (runId : RunId) :
      sampleLedger.read (recordPath (.ofText "/work") runId) =
        plantedLedger.read (recordPath (.ofText "/work") runId) := by
    obtain ⟨leads, _⟩ := leads_work sampleLedger rfl rfl
    obtain ⟨stillLeads, _⟩ := leads_work (sampleLedger.put [recordName neighbour.runId] (.file (payload neighbour))) rfl rfl
    have outside : (sampleLedger.put [recordName neighbour.runId] (.file (payload neighbour))).find?
        [recordName runId, "work"] = sampleLedger.find? [recordName runId, "work"] := by
      rw [find?_put, if_neg (by simp)]
    rw [plantedLedger, read_put stillLeads rfl rfl _ (fun target => noFile _ runId target outside),
      read_put leads rfl rfl (by simp) (fun target => noFile _ runId target rfl)]
    intro same
    exact recordName_ne_stagingName neighbour.runId 7 runId (List.cons.inj same).1
  obtain ⟨reads, listings, _, _, foreign, _⟩ := reads_stay_inside alike
  obtain ⟨leads, located⟩ := leads_work sampleLedger rfl rfl
  have filed : Filed (.ofText "/work") [sample] ["work"] sampleLedger := ⟨leads, located, rfl⟩
  have roomy : Roomy (.ofText "/work") := ⟨by decide, by decide⟩
  have printable : ∀ record ∈ [sample], record.isPrintable = true := by simp [storable_sample.1]
  refine ⟨alike, ?_, ?_, ?_⟩
  · rw [← reads, RunStore.read_text, store_get, filed.get roomy printable]
    simp [RunLog.find?]
  · rw [← reads, foreign _ (.inr (.inr ⟨'.', by decide, by decide⟩))]
  · rw [← listings, listMatching_eq, listing, filed.listRecent roomy printable (by simp)]
    simp [RunLog.recent, RunFilter.everything, RunFilter.keeps, Except.toOption]

end SingleFlight.Ledger.FileStore
