import SingleFlight.Proofs.Agreement

/-!
Permanence of records. Main statement: an append does all of its work or none of it, whatever it finds, and a
record that was once read back is read back for good, in either kind of ledger.
-/

namespace SingleFlight.Ledger

open Files Files.Tree

namespace FileStore

/-- Whether the name that a call stages a record under is free, if it stages one. -/
def StagesFreely (root : Path) : LedgerCall → Tree → Prop
  | .append nonce record, tree => StagingFree root nonce record.runId tree
  | _, _ => True

variable {root : Path} {tree : Tree} {runId : RunId} {record : RunRecord}

theorem grows_serve (call : LedgerCall) (free : StagesFreely root call tree) :
    Grows tree ((store root).serve tree call).2 := by
  cases call with
  | append nonce other => exact (append_outcome free).grows
  | get other => exact Grows.refl tree
  | listRecent filter limit => exact Grows.refl tree

/-- What a run is read back as, it is read back as ever after. -/
theorem get_ever_after {calls : List LedgerCall} (free : (store root).Throughout (StagesFreely root) tree calls)
    (got : get root runId tree = .ok (some record)) :
    get root runId ((store root).serveAll tree calls).2 = .ok (some record) := by
  apply RunStore.serveAll_keeps (fun after => get root runId after = .ok (some record)) _ free got
  intro call before suits gotBefore
  exact get_of_grows (grows_serve call suits) gotBefore

end FileStore

/-- An append is all or nothing. In files, whatever the tree holds, it adds one file from which the record is read
back, or nothing but directories on the way. In tables, whatever rows they hold, it adds all the rows of the
record, or none. And what a run is once read back as, it is read back as after any further calls. -/
theorem append_all_or_nothing :
    (∀ root nonce record tree, FileStore.StagingFree root nonce record.runId tree →
      FileStore.Outcome root record tree ((FileStore.store root).append nonce record tree)) ∧
    (∀ record database, SqlStore.Outcome record database (SqlStore.append record database)) ∧
    (∀ path nonce record tree, SqlStore.OutcomeAt path record tree ((SqlStore.store path).append nonce record tree)) ∧
    (∀ root tree calls runId record, (FileStore.store root).Throughout (FileStore.StagesFreely root) tree calls →
      ((FileStore.store root).get runId tree).1 = .ok (some record) →
      ((FileStore.store root).get runId ((FileStore.store root).serveAll tree calls).2).1 = .ok (some record)) ∧
    (∀ path tree calls runId record, ((SqlStore.store path).get runId tree).1 = .ok (some record) →
      ((SqlStore.store path).get runId ((SqlStore.store path).serveAll tree calls).2).1 = .ok (some record)) := by
  refine ⟨?_, SqlStore.append_outcome, SqlStore.appendAt_outcome, ?_, ?_⟩
  · intro root nonce record tree free
    rw [FileStore.store_append]
    exact FileStore.append_outcome free
  · intro root tree calls runId record free got
    rw [FileStore.store_get] at got ⊢
    exact FileStore.get_ever_after free got
  · intro path tree calls runId record got
    exact SqlStore.get_ever_after calls got

/-- A record is put into an empty ledger of either kind, and put in once more. -/
theorem append_all_or_nothing_sample :
    let root : Path := .ofText "/work"
    let path : Path := .ofText "runs.db"
    let again : List LedgerCall := [.append 8 sample]
    let filed := ((FileStore.store root).append 7 sample Tree.empty).2
    let rows := ((SqlStore.store path).append 7 sample (SqlStore.migrate path Migration.latestVersion Tree.empty).2).2
    FileStore.StagingFree root 7 sample.runId Tree.empty ∧
    FileStore.Outcome root sample Tree.empty (.ok (), filed) ∧
    (FileStore.store root).Throughout (FileStore.StagesFreely root) filed again ∧
    ((FileStore.store root).get sample.runId ((FileStore.store root).serveAll filed again).2).1 = .ok (some sample) ∧
    ((SqlStore.store path).get sample.runId ((SqlStore.store path).serveAll rows again).2).1 = .ok (some sample) := by
  intro root path again filed rows
  have printable : sample.isPrintable = true := storable_sample.1
  have absent : RunLog.append sample [] = (.ok (), [sample]) := rfl
  obtain ⟨after, kept, appended⟩ := fresh_work.keptIn.append printable 7
  rw [absent] at kept appended
  have same : filed = after := congrArg Prod.snd appended
  rw [← same] at kept appended
  have allPrintable : ∀ record ∈ [sample], record.isPrintable = true := by
    intro record recordIn
    rw [List.mem_singleton.mp recordIn]
    exact printable
  have distinct : ([sample].map (·.runId)).Nodup := List.nodup_singleton _
  have logged : RunLog.find? sample.runId [sample] = some sample := RunLog.find?_of_mem distinct List.mem_cons_self
  have filedThere : ((FileStore.store root).get sample.runId filed).1 = .ok (some sample) := by
    have got := kept.get allPrintable sample.runId
    rw [logged] at got
    exact got
  have rowsThere : ((SqlStore.store path).get sample.runId rows).1 = .ok (some sample) := by
    have put : (SqlStore.append sample (SqlStore.ofLog [])).2 = SqlStore.ofLog [sample] := by
      rw [SqlStore.append_ofLog [] storable_sample.keepable]
      rfl
    have keptRows : SqlStore.KeptAt path (SqlStore.ofLog [sample]) rows := by
      rw [← put]
      exact (keptAt_work.migrate.serve (.append 7 sample)).2
    have allStorable : ∀ record ∈ [sample], SqlStore.Storable record := by
      intro record recordIn
      rw [List.mem_singleton.mp recordIn]
      exact storable_sample
    have found := SqlStore.find_ofLog allStorable distinct sample.runId
    rw [logged] at found
    rw [keptRows.get]
    exact SqlStore.shows_iff.mpr ⟨by decide, found⟩
  have free : FileStore.StagingFree root 7 sample.runId Tree.empty := fresh_work.keptIn.stagingFree 7 sample.runId
  have freeAgain : (FileStore.store root).Throughout (FileStore.StagesFreely root) filed again :=
    ⟨kept.stagingFree 8 sample.runId, trivial⟩
  obtain ⟨files, _, _, filesEver, rowsEver⟩ := append_all_or_nothing
  refine ⟨free, ?_, freeAgain, ?_, ?_⟩
  · exact appended ▸ files root 7 sample Tree.empty free
  · exact filesEver root filed again sample.runId sample freeAgain filedThere
  · exact rowsEver path rows again sample.runId sample rowsThere

end SingleFlight.Ledger
