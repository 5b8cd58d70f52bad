import Mathlib.Data.List.Basic
import SingleFlight.Proofs.StampOrder
import SingleFlight.Proofs.TableReadings

/-!
The records of a ledger in the order of time. Main statement: where the ids of all records were minted, each in its
second, records are listed from the latest second to the earliest, and the latest record of a family is one whose
second no other record of the family has a later one than.
-/

namespace SingleFlight.Ledger

open Files Time

variable {σ : Type} {held : RunRecord → Prop} {acquired : RunId → Int} {filter : RunFilter} {limit : Nat}

/-- Whether a list holds the newest of the records that a filter keeps, up to a limit and the newest first. -/
structure IsNewest (held : RunRecord → Prop) (filter : RunFilter) (limit : Nat) (acquired : RunId → Int)
    (records : List RunRecord) : Prop where
  falling : records.Pairwise fun first second => acquired second.runId ≤ acquired first.runId
  kept : ∀ record ∈ records, held record ∧ filter.keeps record = true
  others : ∀ record, held record → filter.keeps record = true → record ∉ records →
    records.length = limit ∧ ∀ listed ∈ records, acquired record.runId ≤ acquired listed.runId

/-- What is cut off at the limit is no newer than what is left. -/
theorem isNewest_take {found : List RunRecord}
    (falling : found.Pairwise fun first second => acquired second.runId ≤ acquired first.runId)
    (members : ∀ record, record ∈ found ↔ held record ∧ filter.keeps record = true) (limit : Nat) :
    IsNewest held filter limit acquired (found.take limit) where
  falling := falling.sublist (List.take_sublist limit found)
  kept record listed := (members record).mp (List.mem_of_mem_take listed)
  others := by
    intro record isHeld keeps unlisted
    have parts := List.take_append_drop limit found
    have cut : record ∈ found.drop limit := by
      have among := (members record).mpr ⟨isHeld, keeps⟩
      rw [← parts] at among
      exact (List.mem_append.mp among).resolve_left unlisted
    refine ⟨?_, ?_⟩
    · have more := List.length_pos_of_mem cut
      rw [List.length_drop] at more
      rw [List.length_take]
      omega
    · intro listed listedIn
      rw [← parts] at falling
      exact (List.pairwise_append.mp falling).2.2 listed listedIn record cut

/-- Whether a store tells the records that it holds in the order of the seconds in which they were acquired: lists
of them start with the newest, and the latest record of a family is a newest one of the family. A list can only fail,
and a latest record can only be missing, where there is nothing to tell. -/
structure RunStore.Chronological (store : RunStore σ) (state : σ) (held : RunRecord → Prop) (acquired : RunId → Int) : Prop where
  listed : ∀ filter limit, match (store.listRecent filter limit state).1 with
    | .ok records => IsNewest held filter limit acquired records
    | .error _ => ∀ record, held record → filter.keeps record = false
  latest : ∀ family, match (store.latest family state).1 with
    | none => ∀ record, held record → family.contains record.action = false
    | some record => held record ∧ family.contains record.action = true ∧
        ∀ other, held other → family.contains other.action = true → acquired other.runId ≤ acquired record.runId

/-- A store that shows its records in the order of their ids tells them in the order of time, if the ids were minted. -/
theorem RunStore.Shows.chronological {store : RunStore σ} {state : σ} (shows : store.Shows state held)
    (idle : ∀ filter, (store.listRecent filter 0 state).1 = .ok [])
    (minted : ∀ record, held record → record.runId.MintedIn (acquired record.runId)) :
    store.Chronological state held acquired where
  listed := by
    intro filter limit
    obtain ⟨found, sorted, members, listed⟩ := shows filter
    have falling : found.Pairwise fun first second => acquired second.runId ≤ acquired first.runId := by
      apply sorted.imp_of_mem
      intro first second firstIn secondIn ordered
      have firstMinted := minted first ((members first).mp firstIn).1
      have secondMinted := minted second ((members second).mp secondIn).1
      exact secondMinted.le_of_text_le firstMinted ordered
    have taken := listed limit
    unfold RunStore.listMatching at taken
    cases answer : store.listRecent filter limit state with
    | mk result after =>
      rw [answer] at taken
      dsimp only at taken ⊢
      cases result with
      | ok records =>
        dsimp only at taken ⊢
        rw [taken]
        exact isNewest_take falling members limit
      | error fault =>
        intro record isHeld
        rw [Bool.eq_false_iff]
        intro keeps
        have among := (members record).mpr ⟨isHeld, keeps⟩
        -- Nothing was listed: either there was nothing, or nothing was asked for, and that never fails.
        rcases List.take_eq_nil_iff.mp taken.symm with zero | nothing
        · have nothing := idle filter
          rw [← zero, answer] at nothing
          cases nothing
        · rw [nothing] at among
          cases among
  latest := by
    intro family
    have told := shows.latest family
    cases answer : (store.latest family state).1 with
    | none =>
      rw [answer] at told
      exact told
    | some record =>
      rw [answer] at told
      obtain ⟨isHeld, within, greatest⟩ := told
      refine ⟨isHeld, within, ?_⟩
      intro other otherHeld otherWithin
      exact (minted other otherHeld).le_of_text_le (minted record isHeld) (greatest other otherHeld otherWithin)

/-- A record that is newer than all others of its family is the latest one. -/
theorem RunStore.Chronological.latest_eq {store : RunStore σ} {state : σ} {family : ActionFamily} {record : RunRecord}
    (chronological : store.Chronological state held acquired) (isHeld : held record)
    (within : family.contains record.action = true)
    (newest : ∀ other, held other → other ≠ record → acquired other.runId < acquired record.runId) :
    (store.latest family state).1 = some record := by
  have told := chronological.latest family
  cases answer : (store.latest family state).1 with
  | none =>
    rw [answer] at told
    exact absurd within (Bool.eq_false_iff.mp (told record isHeld))
  | some found =>
    rw [answer] at told
    obtain ⟨foundHeld, _, greatest⟩ := told
    by_contra different
    have later := greatest record isHeld within
    have earlier := newest found foundHeld fun same => different (congrArg some same)
    omega

/-- Ids can be minted at any two times of the years 0 to 9999 in UTC, taken down at whatever offsets, and with any
digits of chance at their ends. They are read again, each starts with the sixteen characters that stamp its second,
and the one of an earlier second is the smaller text. So a ledger all of whose ids were minted tells its records in
the order of time: one of files whatever else there is in its directory, and one of tables whose rows can be read,
whatever has been asked of it since. -/
theorem newest_first :
    (∀ (first second : Timestamp) (firstSuffix secondSuffix : UInt16), first.InFourDigits → second.InFourDigits →
      ∃ firstId secondId, RunId.mint? first firstSuffix = some firstId ∧ RunId.mint? second secondSuffix = some secondId ∧
        firstId.Stamped first ∧ secondId.Stamped second ∧ (first.seconds < second.seconds → firstId.text < secondId.text)) ∧
    (∀ (root : Path) (tree : Tree) (acquired : RunId → Int),
      (∀ record, FileStore.Readable root tree record → record.runId.MintedIn (acquired record.runId)) →
      (FileStore.store root).Chronological tree (FileStore.Readable root tree) acquired) ∧
    (∀ (path : Path) (tree : Tree) (database : Database) (calls : List LedgerCall) (acquired : RunId → Int),
      SqlStore.KeptAt path database tree → SqlStore.Legible database →
      let after := ((SqlStore.store path).serveAll tree calls).2
      let held (record : RunRecord) := ((SqlStore.store path).get record.runId after).1 = .ok (some record)
      (∀ record, held record → record.runId.MintedIn (acquired record.runId)) →
      (SqlStore.store path).Chronological after held acquired) := by
  refine ⟨?_, ?_, ?_⟩
  · intro first second firstSuffix secondSuffix firstYears secondYears
    obtain ⟨firstId, firstMinted⟩ := RunId.exists_mint firstYears firstSuffix
    obtain ⟨secondId, secondMinted⟩ := RunId.exists_mint secondYears secondSuffix
    refine ⟨firstId, secondId, firstMinted, secondMinted, RunId.stamped_of_mint firstYears firstMinted,
      RunId.stamped_of_mint secondYears secondMinted, ?_⟩
    have firstIn : firstId.MintedIn first.seconds := ⟨first, firstSuffix, firstYears, rfl, firstMinted⟩
    have secondIn : secondId.MintedIn second.seconds := ⟨second, secondSuffix, secondYears, rfl, secondMinted⟩
    exact firstIn.text_lt secondIn
  · intro root tree acquired minted
    exact (FileStore.shows_readable root tree).chronological (fun _ => rfl) minted
  · intro path tree database calls acquired kept legible after held minted
    have stays := (kept.serveAll calls).2
    exact (stays.shows (legible.serveAll calls)).chronological (fun _ => rfl) minted

/-- The record of a run that started a second after the sample. -/
def following : RunRecord := { sample with
  runId := ⟨"20260101T000001Z-0000", by rfl⟩, startedAt := .newYear 1000000000, finishedAt := .newYear 3000000000 }

theorem storable_following : SqlStore.Storable following := ⟨by decide +kernel, by decide⟩

/-- The seconds in which the ids of the two runs were minted. -/
def acquiredAt (runId : RunId) : Int :=
  if runId = sample.runId then (Timestamp.newYear 0).seconds else (Timestamp.newYear 1000000000).seconds

/-- Of two runs that are recorded in the wrong order the one that was acquired later is the latest one, in files and
in tables. -/
theorem newest_first_following :
    let calls : List LedgerCall := [.append 1 following, .append 2 sample]
    let files := ((FileStore.store (.ofText "/work")).serveAll Tree.empty calls).2
    let migrated := (SqlStore.migrate (.ofText "runs.db") Migration.latestVersion Tree.empty).2
    let rows := ((SqlStore.store (.ofText "runs.db")).serveAll migrated calls).2
    RunId.mint? (.newYear 0) 1 = some sample.runId ∧ RunId.mint? (.newYear 1000000000) 0 = some following.runId ∧
    sample.runId.text < following.runId.text ∧
    SqlStore.KeptAt (.ofText "runs.db") (SqlStore.ofLog []) migrated ∧ SqlStore.Legible (SqlStore.ofLog []) ∧
    ((FileStore.store (.ofText "/work")).latest (.named "deploy") files).1 = some following ∧
    ((SqlStore.store (.ofText "runs.db")).latest (.named "deploy") rows).1 = some following := by
  intro calls files migrated rows
  obtain ⟨mints, inFiles, inRows⟩ := newest_first
  have sampleYears : (Timestamp.newYear 0).InFourDigits := by decide
  have followingYears : (Timestamp.newYear 1000000000).InFourDigits := by decide
  have sampleMinted : RunId.mint? (.newYear 0) 1 = some sample.runId := by decide +kernel
  have followingMinted : RunId.mint? (.newYear 1000000000) 0 = some following.runId := by decide +kernel
  have ordered : sample.runId.text < following.runId.text := by
    obtain ⟨firstId, secondId, firstMinted, secondMinted, _, _, texts⟩ :=
      mints (.newYear 0) (.newYear 1000000000) 1 0 sampleYears followingYears
    rw [Option.some.inj (sampleMinted.symm.trans firstMinted), Option.some.inj (followingMinted.symm.trans secondMinted)]
    exact texts (by decide)
  have storable : ∀ record ∈ [following, sample], SqlStore.Storable record := by
    simp [storable_following, storable_sample]
  have printable : ∀ record ∈ [following, sample], record.isPrintable = true :=
    fun record among => (storable record among).1
  have distinct : ([following, sample].map (·.runId)).Nodup := by decide
  have found (record : RunRecord) : RunLog.find? record.runId [following, sample] = some record ↔ record ∈ [following, sample] :=
    ⟨List.mem_of_find?_eq_some, RunLog.find?_of_mem distinct⟩
  have minted : ∀ record ∈ [following, sample], record.runId.MintedIn (acquiredAt record.runId) := by
    rw [List.forall_mem_cons, List.forall_mem_singleton]
    exact ⟨⟨.newYear 1000000000, 0, followingYears, rfl, followingMinted⟩, ⟨.newYear 0, 1, sampleYears, rfl, sampleMinted⟩⟩
  have newest : ∀ other ∈ [following, sample], other ≠ following → acquiredAt other.runId < acquiredAt following.runId := by
    decide
  have inStep : SqlStore.KeptAt (.ofText "runs.db") (SqlStore.ofLog []) migrated := keptAt_work.migrate
  have legible : SqlStore.Legible (SqlStore.ofLog []) := SqlStore.legible_ofLog (by decide) (by decide)
  refine ⟨sampleMinted, followingMinted, ordered, inStep, legible, ?_, ?_⟩
  · have kept : FileStore.KeptIn (.ofText "/work") [following, sample] files := by
      have first := (fresh_work.keptIn.serve (by simp) (by decide) (.append 1 following)
        (by rintro _ _ ⟨⟩; exact storable_following.1)).2
      have printableFirst : ∀ record ∈ [following], record.isPrintable = true := by simp [storable_following.1]
      exact (first.serve printableFirst (by decide) (.append 2 sample)
        (by rintro _ _ ⟨⟩; exact storable_sample.1)).2
    have all (record : RunRecord) :
        FileStore.Readable (.ofText "/work") files record ↔ record ∈ [following, sample] := by
      rw [FileStore.readable_iff (by decide), kept.get printable, Except.ok.injEq, found]
    have chronological :=
      inFiles (.ofText "/work") files acquiredAt fun record isHeld => minted record ((all record).mp isHeld)
    exact chronological.latest_eq ((all following).mpr List.mem_cons_self) (by decide)
      fun other isHeld => newest other ((all other).mp isHeld)
  · have tabled : (SqlStore.tables.serveAll (SqlStore.ofLog []) calls).2 = SqlStore.ofLog [following, sample] := by
      have first := (SqlStore.serve_ofLog (show ∀ record ∈ [], SqlStore.Storable record by simp) (by decide)
        (.append 1 following) (by rintro _ _ ⟨⟩; exact storable_following)).2
      have second := (SqlStore.serve_ofLog
        (show ∀ record ∈ [following], SqlStore.Storable record by simp [storable_following])
        (by decide) (.append 2 sample) (by rintro _ _ ⟨⟩; exact storable_sample)).2
      exact (congrArg (fun database => (SqlStore.tables.serve database (.append 2 sample)).2) first).trans second
    have kept := (inStep.serveAll calls).2
    rw [tabled] at kept
    have all (record : RunRecord) :
        ((SqlStore.store (.ofText "runs.db")).get record.runId rows).1 = .ok (some record) ↔
        record ∈ [following, sample] := by
      have same : (SqlStore.ofLog [following, sample]).withVersions = SqlStore.ofLog [following, sample] := rfl
      rw [kept.get, (SqlStore.migrated_ofLog _).get, same, SqlStore.find_ofLog storable distinct, ← found record]
      simp [Except.mapError]
    have chronological := inRows (.ofText "runs.db") migrated _ calls acquiredAt inStep legible
      fun record isHeld => minted record ((all record).mp isHeld)
    exact chronological.latest_eq ((all following).mpr List.mem_cons_self) (by decide)
      fun other isHeld => newest other ((all other).mp isHeld)

end SingleFlight.Ledger
