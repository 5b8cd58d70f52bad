import SingleFlight.Proofs.Listings
import SingleFlight.Proofs.TableReadings
import SingleFlight.Status.Resolve

/-!
What a ledger of tables lists where some rows cannot be read. Main statement: a listing shows the rows that can
be read, unless a row that cannot be read comes before enough of them or belongs to one of them as a path; then
it shows nothing, and a family whose latest row is behind such a row is reported as unknown.
-/

namespace SingleFlight.Ledger.SqlStore

open Files Status Text

variable {path : Path} {tree : Tree} {database : Database} {record : RunRecord} {filter : RunFilter} {limit : Nat}
  {rows : List RunRow}

section Order

variable {row : RunRow} {before after : List RunRow}

/-- Whether a record comes before a row: one without a key comes last. -/
def isBefore (row : RunRow) (record : RunRecord) : Bool :=
  row.runId.all fun key => !TextCell.isAtMost ↑record.runId.text key

/-- The keys of rows that come in order fall, up to rows without a key. -/
theorem isBefore_of_comesFirst {other : RunRow} (read : read? other = some record) (first : comesFirst other row = true)
    (different : ∀ key, row.runId = some key → other.runId ≠ some key) : isBefore row record = true := by
  have key := decode_runId (read?_iff.mp read)
  unfold isBefore
  rw [Option.all_eq_true]
  intro own ownKey
  obtain ⟨otherKey, same, atMost⟩ := comesFirst_iff.mp first own ownKey
  rw [key] at same
  cases same
  rw [Bool.not_eq_true', Bool.eq_false_iff]
  intro back
  rw [TextCell.isAtMost_antisymm atMost back] at ownKey
  exact different _ ownKey key

theorem not_isBefore_of_comesFirst {other : RunRow} (read : read? other = some record) (first : comesFirst row other = true) :
    isBefore row record = false := by
  obtain ⟨key, ownKey, atMost⟩ := comesFirst_iff.mp first _ (decode_runId (read?_iff.mp read))
  rw [isBefore, ownKey, Option.all_some, atMost]
  rfl

/-- Of the records that are read from rows in order, those before a row that cannot be read are the ones that the search
passes before it meets that row. -/
theorem countP_isBefore (sorted : (before ++ row :: after).Pairwise fun first second => comesFirst first second = true)
    (keys : ((before ++ row :: after).filterMap (·.runId)).Nodup) (unread : read? row = none) (filter : RunFilter) :
    (((before ++ row :: after).filterMap read?).filter filter.keeps).countP (isBefore row) =
      ((before.filterMap read?).filter filter.keeps).length := by
  rw [List.pairwise_append, List.pairwise_cons] at sorted
  obtain ⟨_, ⟨later, _⟩, earlier⟩ := sorted
  rw [List.filterMap_append, List.filterMap_cons_none unread, List.filter_append, List.countP_append]
  have passed : ((before.filterMap read?).filter filter.keeps).countP (isBefore row) =
      ((before.filterMap read?).filter filter.keeps).length := by
    rw [List.countP_eq_length]
    intro record found
    obtain ⟨other, otherIn, read⟩ := List.mem_filterMap.mp (List.mem_filter.mp found).1
    apply isBefore_of_comesFirst read (earlier other otherIn row List.mem_cons_self)
    -- Of two rows with one key either could come first, so that the keys have to differ here.
    intro key ownKey otherKey
    rw [List.filterMap_append, List.filterMap_cons_some ownKey, List.nodup_append] at keys
    exact keys.2.2 key (List.mem_filterMap.mpr ⟨other, otherIn, otherKey⟩) key List.mem_cons_self rfl
  have left : ((after.filterMap read?).filter filter.keeps).countP (isBefore row) = 0 := by
    rw [List.countP_eq_zero]
    intro record found
    obtain ⟨other, otherIn, read⟩ := List.mem_filterMap.mp (List.mem_filter.mp found).1
    rw [not_isBefore_of_comesFirst read (later other otherIn)]
    exact Bool.false_ne_true
  rw [passed, left, Nat.add_zero]

theorem stops_iff (sorted : rows.Pairwise fun first second => comesFirst first second = true)
    (keys : (rows.filterMap (·.runId)).Nodup) : Stops filter limit rows ↔
      ∃ row ∈ rows, read? row = none ∧ ((rows.filterMap read?).filter filter.keeps).countP (isBefore row) < limit := by
  constructor
  · rintro ⟨before, row, after, rfl, unread, few⟩
    exact ⟨row, List.mem_append_right before List.mem_cons_self, unread,
      by rwa [countP_isBefore sorted keys unread]⟩
  · rintro ⟨row, rowIn, unread, few⟩
    obtain ⟨before, after, rfl⟩ := List.append_of_mem rowIn
    rw [countP_isBefore sorted keys unread] at few
    exact ⟨before, row, after, rfl, unread, few⟩

end Order

/-- Whether tables are as the migrations leave them, with no key on two rows. Null is no key. -/
structure Prepared (database : Database) : Prop where
  current : Migration.latestVersion ≤ database.version
  runs : database.runs.isSome = true
  paths : database.paths.isSome = true
  keys : (database.runRows.filterMap (·.runId)).Nodup

/-- Whether a row of the project that is asked for cannot be read, and comes before enough of the records asked for. -/
def RowUnread (database : Database) (filter : RunFilter) (limit : Nat) : Prop :=
  ∃ row ∈ database.runRows, isRowOfProject filter row = true ∧ (∀ record, decode row ≠ .ok record) ∧
    (listed filter database).countP (isBefore row) < limit

/-- Whether nothing is listed: a row that cannot be read comes before enough of the records asked for, or one of
these has a path that cannot be read. -/
def Hidden (database : Database) (filter : RunFilter) (limit : Nat) : Prop :=
  RowUnread database filter limit ∨ ∃ record ∈ (listed filter database).take limit, PathUnread database record.runId

theorem Prepared.keys_searched (prepared : Prepared database) (filter : RunFilter) :
    ((searched filter database).filterMap (·.runId)).Nodup := by
  have same :=
    (List.mergeSort_perm (database.runRows.filter (isRowOfProject filter)) comesFirst).filterMap (·.runId)
  rw [searched, same.nodup_iff]
  exact prepared.keys.sublist (List.filter_sublist.filterMap _)

theorem Prepared.rowUnread_iff (prepared : Prepared database) :
    RowUnread database filter limit ↔ Stops filter limit (searched filter database) := by
  have count (row : RunRow) : (listed filter database).countP (isBefore row) =
      (((searched filter database).filterMap read?).filter filter.keeps).countP (isBefore row) := by
    rw [listed, List.countP_map]
    rfl
  rw [stops_iff (sorted_searched filter database) (prepared.keys_searched filter), RowUnread]
  simp only [mem_searched, read?_eq_none, count, and_assoc]

theorem Prepared.falling_listed (prepared : Prepared database) (filter : RunFilter) : Falling (listed filter database) := by
  have distinct := prepared.keys_searched filter
  rw [List.Nodup, List.pairwise_filterMap] at distinct
  unfold listed Falling
  rw [List.pairwise_map]
  apply List.Pairwise.filter
  rw [List.pairwise_filterMap]
  apply ((sorted_searched filter database).and distinct).imp
  rintro first second ⟨before, different⟩ firstRecord firstRead secondRecord secondRead
  have above : isBefore second firstRecord = true := by
    apply isBefore_of_comesFirst firstRead before
    exact fun key secondKey firstKey => different key firstKey key secondKey rfl
  rw [isBefore, decode_runId (read?_iff.mp secondRead), Option.all_some, Bool.not_eq_true',
    Bool.eq_false_iff, ne_eq, TextCell.isAtMost_runId] at above
  exact String.not_le.mp above

theorem Prepared.recent (prepared : Prepared database) (filter : RunFilter) (limit : Nat) :
    (Hidden database filter limit → ∃ failure, recent filter limit database = .error failure) ∧
      (¬Hidden database filter limit → recent filter limit database = .ok ((listed filter database).take limit)) := by
  rw [Hidden, prepared.rowUnread_iff, recent_eq prepared.runs]
  rcases collect_cases filter limit (searched filter database) with ⟨stops, failure, failed⟩ | ⟨goesOn, collected⟩
  · rw [failed]
    exact ⟨fun _ => ⟨failure, rfl⟩, fun seen => absurd (.inl stops) seen⟩
  · rw [collected, listed, ← List.map_take]
    constructor
    · rintro (stops | ⟨record, among, unread⟩)
      · exact absurd stops goesOn
      · obtain ⟨bare, found, rfl⟩ := List.mem_map.mp among
        exact mapM_error found (withPaths_error unread)
    · intro seen
      apply mapM_eq_map
      intro bare found
      apply withPaths_of prepared.paths
      intro unread
      exact seen (.inr ⟨whole database bare, List.mem_map_of_mem found, unread⟩)

theorem Prepared.withVersions (prepared : Prepared database) : Prepared database.withVersions :=
  ⟨prepared.current, prepared.runs, prepared.paths, prepared.keys⟩

theorem KeptAt.listMatching_eq (kept : KeptAt path database tree)
    (current : Migration.latestVersion ≤ database.withVersions.version) (filter : RunFilter) (limit : Nat) :
    ((store path).listMatching filter limit tree).1 =
      if limit = 0 then [] else ((recent filter limit database.withVersions).toOption).getD [] := by
  have same := kept.listRecent_eq current filter limit
  unfold RunStore.listMatching
  generalize (store path).listRecent filter limit tree = answer at same
  obtain ⟨result, after⟩ := answer
  dsimp only at same
  rw [same]
  split_ifs
  · rfl
  · cases SqlStore.recent filter limit database.withVersions <;> rfl

/-- What is listed is cut off by nothing but a row that cannot be read. -/
theorem KeptAt.listMatching_of_prepared (kept : KeptAt path database tree) (prepared : Prepared database) (filter : RunFilter)
    (limit : Nat) :
    (Hidden database filter limit → ((store path).listMatching filter limit tree).1 = []) ∧
      (¬Hidden database filter limit →
        ((store path).listMatching filter limit tree).1 = (listed filter database).take limit) := by
  obtain ⟨fails, finds⟩ := prepared.withVersions.recent filter limit
  rw [kept.listMatching_eq prepared.withVersions.current]
  constructor
  · intro hidden
    obtain ⟨failure, failed⟩ := fails hidden
    rw [failed]
    split <;> rfl
  · intro seen
    split
    next nothing => rw [nothing, List.take_zero]
    next =>
      rw [finds seen]
      rfl

/-- A listing of tables shows the rows that can be read, in falling order, up to the limit, unless a row that
cannot be read comes before enough of them, or one of these has a path that cannot be read. Then nothing is
shown: the listing is empty, no run is the latest one of its family, and the family is reported as unknown. -/
theorem hidden_by_unread_row (kept : KeptAt path database tree) (prepared : Prepared database) :
    (∀ filter, Falling (listed filter database) ∧
      (∀ record, record ∈ listed filter database ↔ ∃ row ∈ database.runRows, ∃ bare, decode row = .ok bare ∧
        record = whole database bare ∧ filter.keeps record = true) ∧
      ∀ limit, (Hidden database filter limit → ((store path).listMatching filter limit tree).1 = []) ∧
        (¬Hidden database filter limit →
          ((store path).listMatching filter limit tree).1 = (listed filter database).take limit)) ∧
    ∀ family : Family,
      (Hidden database (.ofFamily family.actions) 1 →
        ((store path).latest family.actions tree).1 = none ∧ (resolve (store path) family tree).1 = Report.unknown) ∧
      (¬Hidden database (.ofFamily family.actions) 1 →
        ((store path).latest family.actions tree).1 = (listed (.ofFamily family.actions) database).head?) := by
  refine ⟨?_, ?_⟩
  · intro filter
    exact ⟨prepared.falling_listed filter, fun record => mem_listed, kept.listMatching_of_prepared prepared filter⟩
  · intro family
    obtain ⟨hides, shows⟩ := kept.listMatching_of_prepared prepared (.ofFamily family.actions) 1
    have latest : ((store path).latest family.actions tree).1 =
        ((store path).listMatching (.ofFamily family.actions) 1 tree).1.head? := rfl
    constructor
    · intro hidden
      have nothing : ((store path).latest family.actions tree).1 = none := by
        rw [latest, hides hidden]
        rfl
      refine ⟨nothing, ?_⟩
      unfold resolve
      generalize (store path).latest family.actions tree = answer at nothing
      obtain ⟨found, after⟩ := answer
      cases nothing
      rfl
    · intro seen
      rw [latest, shows seen, List.head?_take, if_neg Nat.one_ne_zero]

/-- A row with a status that there is none of, of a run after the one of the sample. -/
def unreadRow : RunRow := { runRow sample with runId := some "20260101T000001Z-0002", status := "paused" }

/-- A database with the row of one run that can be read, and a later one that cannot. -/
def blindedDatabase : Database := { ofLog [sample] with runs := some [runRow sample, unreadRow] }

theorem not_decode_unreadRow (record : RunRecord) : decode unreadRow ≠ .ok record := by
  have status : decode unreadRow = .error (.unknownStatus "paused") := by decide +kernel
  rw [status]
  intro never
  cases never

/-- The row that can be read is behind the other one, whatever is asked for of its project. -/
theorem hidden_blindedDatabase (ofProject : isOfProject filter sample = true) (positive : 0 < limit) :
    Hidden blindedDatabase filter limit := by
  have rowOfProject : isRowOfProject filter unreadRow = true :=
    (congrFun (isRowOfProject_runRow filter) sample).trans ofProject
  refine .inl ⟨unreadRow, List.mem_cons_of_mem _ List.mem_cons_self, rowOfProject, not_decode_unreadRow, ?_⟩
  have nothing : (listed filter blindedDatabase).countP (isBefore unreadRow) = 0 := by
    rw [List.countP_eq_zero]
    intro record found
    obtain ⟨row, rowIn, decoded, decodes, rfl, _⟩ := mem_listed.mp found
    have rows : row ∈ [runRow sample, unreadRow] := rowIn
    rcases List.mem_pair.mp rows with rfl | rfl
    · obtain rfl := Except.ok.inj ((decode_runRow storable_sample).symm.trans decodes)
      decide
    · exact absurd decodes (not_decode_unreadRow decoded)
  rwa [nothing]

/-- A database with the row of one run, and a path of that run in which there is no text. -/
def blottedDatabase : Database :=
  { ofLog [sample] with paths := some [⟨sample.runId.text, .integer 0, .bytes [0xFF]⟩] }

theorem length_listed (filter : RunFilter) (database : Database) :
    (listed filter database).length ≤ database.runRows.length := by
  rw [listed, List.length_map]
  apply (List.length_filter_le _ _).trans
  apply (List.length_filterMap_le _ _).trans
  rw [List.length_mergeSort]
  exact List.length_filter_le _ _

/-- The row that can be read is listed with a path that cannot. -/
theorem hidden_blottedDatabase (keeps : filter.keeps (whole blottedDatabase (bare sample)) = true)
    (positive : 0 < limit) :
    Hidden blottedDatabase filter limit := by
  have few : (listed filter blottedDatabase).length ≤ limit := (length_listed filter blottedDatabase).trans positive
  refine .inr ⟨whole blottedDatabase (bare sample), ?_, ?_⟩
  · rw [List.take_of_length_le few]
    exact mem_listed.mpr ⟨runRow sample, List.mem_cons_self, bare sample, decode_runRow storable_sample, rfl, keeps⟩
  · exact ⟨_, List.mem_cons_self, rfl, nofun⟩

/-- The family of all deployments. -/
def deployments : Family where
  name := "deployments"
  actions := .named "deploy"
  proofRoot := none
  gatewayRoot := none
  sessionRoot := none
  authClasses := Dictionary.empty
  snapshot := none

theorem hidden_by_unread_row_sample :
    let tree := Tree.empty.put ["runs.db", "work"] (.database blindedDatabase)
    KeptAt (.ofText "runs.db") blindedDatabase tree ∧ Prepared blindedDatabase ∧
    sample ∈ listed .everything blindedDatabase ∧
    ((store (.ofText "runs.db")).listMatching .everything 5 tree).1 = [] ∧
    ((store (.ofText "runs.db")).latest (.named "deploy") tree).1 = none ∧
    (resolve (store (.ofText "runs.db")) deployments tree).1 = Report.unknown ∧
    ((store (.ofText "runs.db")).listMatching .everything 5
      (Tree.empty.put ["runs.db", "work"] (.database blottedDatabase))).1 = [] := by
  intro tree
  have kept : KeptAt (.ofText "runs.db") blindedDatabase tree := keptAt_put blindedDatabase
  have prepared : Prepared blindedDatabase := ⟨by decide, rfl, rfl, by decide⟩
  obtain ⟨listings, families⟩ := hidden_by_unread_row kept prepared
  obtain ⟨_, members, shown⟩ := listings .everything
  have own : sample = whole blindedDatabase (bare sample) := by
    have distinct : ([sample].map (·.runId)).Nodup := List.nodup_singleton _
    have loaded := withPaths_ofLog distinct List.mem_cons_self storable_sample
    have legible : Legible (ofLog [sample]) := legible_ofLog (by simp [storable_sample]) distinct
    rw [withPaths_of rfl (legible.pathsRead _)] at loaded
    exact (Except.ok.inj loaded).symm
  obtain ⟨unknown, unresolved⟩ := (families deployments).1 (hidden_blindedDatabase rfl Nat.one_pos)
  refine ⟨kept, prepared, ?_, ?_, unknown, unresolved, ?_⟩
  · exact (members sample).mpr
      ⟨runRow sample, List.mem_cons_self, bare sample, decode_runRow storable_sample, own, rfl⟩
  · exact (shown 5).1 (hidden_blindedDatabase rfl (by decide))
  · have blotted : Prepared blottedDatabase := ⟨by decide, rfl, rfl, by decide⟩
    obtain ⟨_, _, shown⟩ := (hidden_by_unread_row (keptAt_put blottedDatabase) blotted).1 .everything
    exact (shown 5).1 (hidden_blottedDatabase rfl (by decide))

end SingleFlight.Ledger.SqlStore
