import SingleFlight.Proofs.Confinement

/-!
What a ledger of files lists of a directory that holds anything. Main statement: one list of all records that can be read
settles every listing, in falling order of run ids; what cannot be read is in no one's way, and the order in which a
system lists a directory makes no difference.
-/

namespace SingleFlight.Ledger

/-- Whether records are in falling order of their run ids, no two of one run. -/
def Falling (records : List RunRecord) : Prop :=
  records.Pairwise fun first second => second.runId.text < first.runId.text

theorem Falling.nodup {records : List RunRecord} (falling : Falling records) : records.Nodup := by
  apply falling.imp
  rintro first second less rfl
  exact String.lt_irrefl _ less

/-- There is one way to put records in falling order. -/
theorem Falling.unique {first second : List RunRecord} (firstFalling : Falling first) (secondFalling : Falling second)
    (same : ∀ record, record ∈ first ↔ record ∈ second) : first = second := by
  apply List.Perm.eq_of_pairwise _ firstFalling secondFalling
  · exact (List.perm_ext_iff_of_nodup firstFalling.nodup secondFalling.nodup).mpr same
  · exact fun one another _ _ after before => absurd before (String.lt_asymm after)

end SingleFlight.Ledger

namespace SingleFlight.Ledger.FileStore

open Files Files.Tree Text

variable {root : Path} {tree other : Tree} {names : List OsText} {record : RunRecord} {runId : RunId}

theorem filled_of_list (listed : tree.list root = .ok names) : root.text.isEmpty = false := by
  rw [← Bool.not_eq_true]
  intro empty
  rw [list_of_isEmpty empty] at listed
  cases listed

/-- A directory that can be listed has a listing through every filter, and it is cut to any limit. -/
theorem exists_listing (listed : tree.list root = .ok names) (filter : RunFilter) : ∃ found, Falling found ∧
    (∀ record, record ∈ found ↔ get root record.runId tree = .ok (some record) ∧ filter.keeps record = true) ∧
    ∀ limit, listRecent root filter limit tree = .ok (found.take limit) := by
  obtain ⟨found, sorted, members, shown⟩ := shows_readable root tree filter
  simp only [listMatching_eq] at shown
  refine ⟨found, ?_, ?_, ?_⟩
  · -- The order is strict, since no run is listed twice.
    have distinct := nodup_listing root filter found.length tree
    rw [shown, List.take_length, List.Nodup, List.pairwise_map] at distinct
    apply (sorted.and distinct).imp
    rintro first second ⟨atMost, different⟩
    exact Std.lt_of_le_of_ne atMost fun same => different (RunId.eq_of_text same).symm
  · intro record
    rw [members, readable_iff (filled_of_list listed)]
  · intro limit
    have recent := listRecent_eq (listedRuns_of_list listed) filter limit
    have same := shown limit
    rw [listing, recent] at same
    rw [recent, ← same]
    rfl

/-- What is read of a run stands in the file that is named for it, and is of that run. -/
theorem get_iff : get root runId tree = .ok (some record) ↔
    ∃ content, tree.read (recordPath root runId) = .ok content ∧ decode? content = some record ∧ record.runId = runId := by
  unfold get
  constructor
  · intro got
    split at got
    next => cases got
    next => cases got
    next content read =>
      split at got
      next => cases got
      next found decoded =>
        split at got
        next same =>
          cases got
          exact ⟨content, read, decoded, same⟩
        next => cases got
  · rintro ⟨content, read, decoded, same⟩
    rw [read]
    dsimp only
    rw [decoded]
    exact if_pos same

theorem get_reordered (reordered : tree.Reordered other) :
    get root runId other = .ok (some record) ↔ get root runId tree = .ok (some record) := by
  rw [get_iff, get_iff]
  constructor
  · rintro ⟨content, read, decoded⟩
    exact ⟨content, reordered.symm.grows.read read, decoded⟩
  · rintro ⟨content, read, decoded⟩
    exact ⟨content, reordered.grows.read read, decoded⟩

/-- One list of records settles all listings of a directory. -/
theorem exists_records (listed : tree.list root = .ok names) : ∃ all, Falling all ∧
    (∀ record, record ∈ all ↔ get root record.runId tree = .ok (some record)) ∧
    ∀ filter limit, listRecent root filter limit tree = .ok ((all.filter filter.keeps).take limit) := by
  obtain ⟨all, falling, members, _⟩ := exists_listing listed .everything
  have readable (record : RunRecord) : record ∈ all ↔ get root record.runId tree = .ok (some record) := by
    rw [members]
    exact and_iff_left rfl
  refine ⟨all, falling, readable, ?_⟩
  intro filter limit
  obtain ⟨found, foundFalling, foundIn, shown⟩ := exists_listing listed filter
  have same : found = all.filter filter.keeps := by
    apply foundFalling.unique (falling.sublist List.filter_sublist)
    intro record
    rw [foundIn, List.mem_filter, readable]
  rw [shown, same]

/-- Two directories that the same records are read in are listed alike. -/
theorem listRecent_congr {otherNames : List OsText} (listed : tree.list root = .ok names)
    (otherListed : other.list root = .ok otherNames)
    (same : ∀ record, get root record.runId other = .ok (some record) ↔ get root record.runId tree = .ok (some record))
    (filter : RunFilter) (limit : Nat) : listRecent root filter limit other = listRecent root filter limit tree := by
  obtain ⟨all, falling, readable, recent⟩ := exists_records listed
  obtain ⟨others, othersFalling, othersReadable, othersRecent⟩ := exists_records otherListed
  have equal : others = all := by
    apply othersFalling.unique falling
    intro record
    rw [othersReadable, readable, same]
  rw [othersRecent, recent, equal]

/-- A directory that can be listed has one list of all records that can be read of it, in falling order. Every listing
shows what the filter keeps of that list, cut to the limit. A shorter listing starts a longer one, a record that is listed
is read by its run id, and neither what cannot be read nor the order of the directory makes a difference. -/
theorem listed_whatever_stands_beside (listed : tree.list root = .ok names) :
    ∃ all, Falling all ∧ (∀ record, record ∈ all ↔ get root record.runId tree = .ok (some record)) ∧
      (∀ filter limit, listRecent root filter limit tree = .ok ((all.filter filter.keeps).take limit)) ∧
      (∀ filter limit larger, limit ≤ larger → ∃ found more, listRecent root filter limit tree = .ok found ∧
        listRecent root filter larger tree = .ok more ∧ found <+: more) ∧
      (∀ filter limit found, listRecent root filter limit tree = .ok found →
        ∀ record ∈ found, get root record.runId tree = .ok (some record) ∧ filter.keeps record = true) ∧
      (∀ other otherNames, other.list root = .ok otherNames →
        (∀ record, get root record.runId other = .ok (some record) ↔ get root record.runId tree = .ok (some record)) →
        ∀ filter limit, listRecent root filter limit other = listRecent root filter limit tree) ∧
      (∀ other, tree.Reordered other → ∀ filter limit,
        listRecent root filter limit other = listRecent root filter limit tree) := by
  obtain ⟨all, falling, readable, recent⟩ := exists_records listed
  refine ⟨all, falling, readable, recent, ?_, ?_, ?_, ?_⟩
  · intro filter limit larger atMost
    exact ⟨_, _, recent filter limit, recent filter larger, List.take_prefix_take_left atMost⟩
  · intro filter limit found shown record recordIn
    rw [recent filter limit] at shown
    cases shown
    obtain ⟨inAll, keeps⟩ := List.mem_filter.mp (List.mem_of_mem_take recordIn)
    exact ⟨(readable record).mp inAll, keeps⟩
  · intro other otherNames otherListed same
    exact listRecent_congr listed otherListed same
  · intro other reordered
    obtain ⟨otherNames, otherListed⟩ := reordered.list listed
    exact listRecent_congr listed otherListed fun record => get_reordered reordered

/-- A directory with the record of one run, and beside it that record under the name of another run, a text that breaks off,
a directory that is named for a run, a staging file that was left, and a file that is named for none. -/
def clutteredLedger : Tree where
  nodes := [([], .directory 0), (["work"], .directory 0),
    (["20260101T000000Z-0002.json", "work"], .file (payload sample)),
    (["20260101T000000Z-0003.json", "work"], .file [0x7B]),
    (["20260101T000000Z-0001.json", "work"], .file (payload sample)),
    (["20260101T000000Z-0004.json", "work"], .directory 5),
    ([".20260101T000000Z-0001.00000007.tmp", "work"], .file (payload sample)),
    (["read me.json", "work"], .file [])]
  here := ["work"]
  distinct := by decide

/-- The record that is filed twice is the only one that is read. -/
theorem get_cluttered :
    get (.ofText "/work") record.runId clutteredLedger = .ok (some record) ↔ record = sample := by
  obtain ⟨leads, located⟩ := leads_work clutteredLedger rfl rfl
  have roomy : Roomy (.ofText "/work") := ⟨by decide, by decide⟩
  have entry := roomy.entry_record leads
  constructor
  · intro got
    obtain ⟨⟨names, listed, named⟩, _⟩ := (readable_iff rfl).mpr got
    rw [list_of_leadsTo leads located] at listed
    cases listed
    obtain ⟨content, read, decoded, _⟩ := get_iff.mp got
    have copied (held : clutteredLedger.find? [recordName record.runId, "work"] = some (.file (payload sample))) :
        record = sample := by
      obtain rfl := Except.ok.inj ((read_of_entry (entry record.runId) held).symm.trans read)
      rw [decode?_payload storable_sample.1] at decoded
      exact (Option.some.inj decoded).symm
    have foreign {name : String} (none : (withoutEnding? ".json" name).bind RunId.ofText? = none) :
        recordName record.runId ≠ ↑name := by
      intro same
      have named := namedRun?_recordName record.runId
      rw [same, namedRun?, OsText.text?_ofString, Option.bind_some, none] at named
      cases named
    have members : recordName record.runId ∈ (["20260101T000000Z-0002.json", "20260101T000000Z-0003.json",
      "20260101T000000Z-0001.json", "20260101T000000Z-0004.json", ".20260101T000000Z-0001.00000007.tmp",
      "read me.json"] : List OsText) := named
    simp only [List.mem_cons, List.not_mem_nil, or_false] at members
    rcases members with misfiled | cut | filed | directory | staged | unnamed
    · exact copied (by rw [misfiled]; rfl)
    · have held : clutteredLedger.find? [recordName record.runId, "work"] = some (.file [0x7B]) := by
        rw [cut]
        rfl
      obtain rfl := Except.ok.inj ((read_of_entry (entry record.runId) held).symm.trans read)
      have broken : decode? [0x7B] = none := by decide +kernel
      rw [broken] at decoded
      cases decoded
    · exact copied (by rw [filed]; rfl)
    · have held : clutteredLedger.find? [recordName record.runId, "work"] = some (.directory 5) := by
        rw [directory]
        rfl
      have leadsThere := locate_of_locateEntry (entry record.runId) (by simp [held])
      rw [Tree.read, open?_iff.mpr ⟨_, leadsThere, held⟩] at read
      cases read
    · exact absurd staged (foreign (by decide))
    · exact absurd unnamed (foreign (by decide))
  · rintro rfl
    exact get_of_payload storable_sample.1 (entry sample.runId) rfl

theorem listed_whatever_stands_beside_cluttered :
    clutteredLedger.list (.ofText "/work") = .ok ["20260101T000000Z-0002.json", "20260101T000000Z-0003.json",
      "20260101T000000Z-0001.json", "20260101T000000Z-0004.json", ".20260101T000000Z-0001.00000007.tmp", "read me.json"] ∧
    listRecent (.ofText "/work") .everything 1 clutteredLedger = .ok [sample] := by
  obtain ⟨leads, located⟩ := leads_work clutteredLedger rfl rfl
  have listed := list_of_leadsTo leads located
  obtain ⟨all, falling, readable, recent, _⟩ := listed_whatever_stands_beside listed
  have alone : all = [sample] := by
    apply falling.unique (List.pairwise_singleton _ sample)
    intro record
    rw [readable, get_cluttered, List.mem_singleton]
  refine ⟨listed, ?_⟩
  rw [recent, alone]
  rfl

end SingleFlight.Ledger.FileStore
