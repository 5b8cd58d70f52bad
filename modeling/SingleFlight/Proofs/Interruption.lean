import SingleFlight.Proofs.Agreement
import SingleFlight.Proofs.Waypoints

/-!
Appends that are cut off. Whatever the point at which the effects of an append end, the ledger shows the runs that
it showed before, and of the new one either nothing or the whole record; and the append can be made again.
-/

namespace SingleFlight.Ledger.FileStore

open Files Files.Tree Text

/-- Whether a list of effects is what is done of another one when that is cut off: all that comes before some
point, and of a write that is cut off itself a part of the content. -/
inductive Cut : List Effect → List Effect → Prop where
  | between (effects : List Effect) : Cut [] effects
  | within (path : Path) (content : List Byte) (count : Nat) (rest : List Effect) :
    Cut [.write path (content.take count)] (.write path content :: rest)
  | behind {effect : Effect} {done rest : List Effect} (cut : Cut done rest) : Cut (effect :: done) (effect :: rest)

theorem Cut.whole (effects : List Effect) : Cut effects effects := by
  induction effects with
  | nil => exact .between []
  | cons effect rest ih => exact .behind ih

variable {root : Path} {nonce again : UInt32} {record : RunRecord} {runId : RunId} {tree opened state : Tree}
  {staging filed outer : Location} {linked : Bool}

/-- The effects of an append in a directory that is there. Only a record that can be written down has any. -/
def effects (root : Path) (nonce : UInt32) (record : RunRecord) : List Effect :=
  if record.isPrintable then
    stageAndLink (stagingPath root record.runId nonce) (recordPath root record.runId) (payload record) ++
      [.remove (stagingPath root record.runId nonce)]
  else []

def linking (root : Path) (nonce : UInt32) (record : RunRecord) : Effect :=
  .link (stagingPath root record.runId nonce) (recordPath root record.runId)

/-- What a tree is when an append to it has been cut off, before the record was linked or after that: one that is
passed through while the directories are made, or one that some of the effects have been performed on. -/
inductive CutOff (root : Path) (nonce : UInt32) (record : RunRecord) (tree : Tree) : Bool → Tree → Prop where
  | onTheWay {state : Tree} (passed : state ∈ tree.waypoints root (root.text.length + 1)) : CutOff root nonce record tree false state
  | atWork {opened : Tree} {done : List Effect} (made : tree.makeDirectories root = (.ok (), opened))
    (cut : Cut done (effects root nonce record)) :
    CutOff root nonce record tree (done.contains (linking root nonce record)) (opened.performAll done).2

/-- What an append that was cut off can have left in a directory: nothing, some part of the content under the
staging name, the record besides that, or the record alone. -/
inductive Remains (opened : Tree) (staging filed : Location) (content : List Byte) : Bool → Tree → Prop where
  | nothing : Remains opened staging filed content false opened
  | draft (part : List Byte) : Remains opened staging filed content false (opened.put staging (.file part))
  | both : Remains opened staging filed content true ((opened.put staging (.file content)).put filed (.file content))
  | record : Remains opened staging filed content true (opened.put filed (.file content))

/-- A list that starts with an effect that can be performed is cut off before it, or behind it. -/
theorem Cut.cases_cons {effect : Effect} {rest done : List Effect} {next : Tree} (cut : Cut done (effect :: rest))
    (whole : ∀ path content, effect ≠ .write path content) (ran : tree.perform effect = .ok next) :
    done = [] ∨ ∃ later, Cut later rest ∧ done = effect :: later ∧ tree.performAll done = next.performAll later := by
  cases cut with
  | between => exact .inl rfl
  | within path content => exact absurd rfl (whole path content)
  | @behind _ later _ cut =>
    refine .inr ⟨later, cut, rfl, ?_⟩
    rw [performAll, ran]

theorem Cut.eq_nil {done : List Effect} (cut : Cut done []) : done = [] := by
  cases cut
  rfl

section Effects

variable (staged : opened.vacancy (stagingPath root record.runId nonce) = .ok staging)
  (vacant : opened.vacancy (recordPath root record.runId) = .ok filed)

include staged vacant

theorem remains_of_cut_whole {done : List Effect} (cut : Cut done (stageAndLink (stagingPath root record.runId nonce)
    (recordPath root record.runId) (payload record) ++ [.remove (stagingPath root record.runId nonce)])) :
    Remains opened staging filed (payload record) (done.contains (linking root nonce record)) (opened.performAll done).2 := by
  -- From the last effect to the first one, each cut is one of those behind the effect, or the one before it.
  have removal {done : List Effect} (cut : Cut done [.remove (stagingPath root record.runId nonce)]) :
      Remains opened staging filed (payload record) true
        (((opened.put staging (.file (payload record))).put filed (.file (payload record))).performAll done).2 := by
    rcases cut.cases_cons (by simp) (perform_remove staged vacant (payload record)) with rfl | ⟨later, cut, _, ran⟩
    · exact .both
    · rw [ran, cut.eq_nil]
      exact .record
  have link {done : List Effect} (cut : Cut done [linking root nonce record, .remove (stagingPath root record.runId nonce)]) :
      Remains opened staging filed (payload record) (done.contains (linking root nonce record))
        ((opened.put staging (.file (payload record))).performAll done).2 := by
    rcases cut.cases_cons (by simp [linking]) (perform_link staged vacant (payload record)) with rfl | ⟨later, cut, shape, ran⟩
    · exact .draft (payload record)
    · have contained : done.contains (linking root nonce record) = true := by rw [shape, List.contains_cons, BEq.rfl, Bool.true_or]
      rw [ran, contained]
      exact removal cut
  have sync {done : List Effect} (cut : Cut done [.sync (stagingPath root record.runId nonce), linking root nonce record,
      .remove (stagingPath root record.runId nonce)]) :
      Remains opened staging filed (payload record) (done.contains (linking root nonce record))
        ((opened.put staging (.file (payload record))).performAll done).2 := by
    rcases cut.cases_cons (by simp) (perform_sync staged (payload record)) with rfl | ⟨later, cut, shape, ran⟩
    · exact .draft (payload record)
    · have contained : done.contains (linking root nonce record) = later.contains (linking root nonce record) := by
        rw [shape, List.contains_cons]
        rfl
      rw [ran, contained]
      exact link cut
  have write {done : List Effect} (cut : Cut done (.write (stagingPath root record.runId nonce) (payload record) ::
      [.sync (stagingPath root record.runId nonce), linking root nonce record, .remove (stagingPath root record.runId nonce)])) :
      Remains opened staging filed (payload record) (done.contains (linking root nonce record))
        ((opened.put staging (.file [])).performAll done).2 := by
    cases cut with
    | between => exact .draft []
    | within _ _ count =>
      rw [performAll, perform_write staged]
      exact .draft _
    | @behind _ later _ cut =>
      rw [performAll, perform_write staged, List.contains_cons]
      exact sync cut
  rcases cut.cases_cons (by simp) (perform_createNew staged) with rfl | ⟨later, cut, shape, ran⟩
  · exact .nothing
  · have contained : done.contains (linking root nonce record) = later.contains (linking root nonce record) := by
      rw [shape, List.contains_cons]
      rfl
    rw [ran, contained]
    exact write cut

theorem remains_of_cut {done : List Effect} (cut : Cut done (effects root nonce record)) :
    Remains opened staging filed (payload record) (done.contains (linking root nonce record)) (opened.performAll done).2 ∧
      (done.contains (linking root nonce record) = true → record.isPrintable = true) := by
  unfold effects at cut
  split at cut
  next printable => exact ⟨remains_of_cut_whole staged vacant cut, fun _ => printable⟩
  next =>
    rw [cut.eq_nil]
    exact ⟨.nothing, nofun⟩

end Effects

/-- A file is named for a run by one name only. -/
theorem name_of_namedRun? {name : OsText} (named : namedRun? name = some runId) : name = recordName runId := by
  unfold namedRun? at named
  obtain ⟨stem, before, spelled⟩ := Option.bind_eq_some_iff.mp named
  obtain ⟨whole, isText, ended⟩ := Option.bind_eq_some_iff.mp before
  have text := RunId.text_of_ofText? spelled
  unfold withoutEnding? at ended
  split at ended
  next ending =>
    obtain ⟨front, shape⟩ := List.isSuffixOf_iff_suffix.mp ending
    cases ended
    rw [← shape, List.length_append, Nat.add_sub_cancel, List.take_left] at text
    have same : whole = runId.text ++ ".json" := by
      apply String.toList_inj.mp
      rw [toList_recordText, text, String.toList_ofList, shape]
    rw [OsText.text?_iff.mp isText, same, recordName]
  next => cases ended

/-- The name of a staging file is the name of no run. -/
theorem namedRun?_stagingName (runId : RunId) (nonce : UInt32) : namedRun? (stagingName runId nonce) = none := by
  cases named : namedRun? (stagingName runId nonce) with
  | none => rfl
  | some other => exact absurd (name_of_namedRun? named).symm (recordName_ne_stagingName runId nonce other)

/-- What a directory of a ledger has become: all that was there is as it was, and what is new are files that are
named for no run, and the file of one record if that has been linked. -/
structure Adds (record : RunRecord) (outer : Location) (opened : Tree) (linked : Bool) (state : Tree) : Prop where
  grows : Grows opened state
  printable : linked = true → record.isPrintable = true
  filed : state.find? (recordName record.runId :: outer) = if linked then some (.file (payload record)) else none
  children : ∃ extra, state.children outer = opened.children outer ++ extra ∧
    extra.filterMap (fun entry => namedRun? entry.1) = if linked then [record.runId] else []

theorem Remains.adds (remains : Remains opened (stagingName record.runId nonce :: outer) (recordName record.runId :: outer)
      (payload record) linked state)
    (staged : opened.find? (stagingName record.runId nonce :: outer) = none)
    (vacant : opened.find? (recordName record.runId :: outer) = none)
    (printable : linked = true → record.isPrintable = true) : Adds record outer opened linked state := by
  have different : recordName record.runId :: outer ≠ stagingName record.runId nonce :: outer := by
    intro same
    exact recordName_ne_stagingName record.runId nonce record.runId (List.cons.inj same).1
  have stagingNamed := namedRun?_stagingName record.runId nonce
  have recordNamed := namedRun?_recordName record.runId
  cases remains with
  | nothing => exact ⟨Grows.refl opened, printable, vacant, [], (List.append_nil _).symm, rfl⟩
  | draft part =>
    refine ⟨grows_put staged rfl, printable, ?_, [(stagingName record.runId nonce, .file part)], children_put staged _, ?_⟩
    · rw [find?_put, if_neg different]
      exact vacant
    · simp [stagingNamed]
  | both =>
    have stillVacant : (opened.put (stagingName record.runId nonce :: outer) (.file (payload record))).find?
        (recordName record.runId :: outer) = none := by
      rw [find?_put, if_neg different]
      exact vacant
    refine ⟨(grows_put staged rfl).trans (grows_put stillVacant rfl), printable, ?_,
      [(stagingName record.runId nonce, .file (payload record)), (recordName record.runId, .file (payload record))], ?_, ?_⟩
    · rw [find?_put, if_pos rfl]
      rfl
    · rw [children_put stillVacant, children_put staged, List.append_assoc]
      rfl
    · simp [stagingNamed, recordNamed]
  | record =>
    refine ⟨grows_put vacant rfl, printable, ?_, [(recordName record.runId, .file (payload record))], children_put vacant _, ?_⟩
    · rw [find?_put, if_pos rfl]
      rfl
    · simp [recordNamed]

/-- Whether the files of runs are all there to be read: none of them is a link that leads nowhere. -/
def Unbroken (root : Path) (tree : Tree) : Prop :=
  ∀ runId location, tree.open? (recordPath root runId) = .error .missing →
    tree.locateEntry (recordPath root runId) = .ok (some location) → tree.find? location = none

/-- Two trees that are read alike at a path are read alike as a ledger. -/
theorem get_congr {other : Tree} (same : state.open? (recordPath root runId) = other.open? (recordPath root runId)) :
    get root runId state = get root runId other := by
  unfold get Tree.read
  rw [same]

/-- What is read of a run is of that run. -/
theorem runId_of_get {found : RunRecord} (got : get root runId tree = .ok (some found)) : found.runId = runId := by
  unfold get at got
  split at got
  next => cases got
  next => cases got
  next =>
    split at got
    next => cases got
    next =>
      split at got
      next same =>
        cases got
        exact same
      next => cases got

namespace Adds

variable (adds : Adds record outer opened linked state) (leads : opened.LeadsTo root outer)

include adds

theorem find?_other {name : OsText} (nothing : opened.find? (name :: outer) = none)
    (other : namedRun? name ≠ some record.runId)
    (named : (namedRun? name).isSome = true) : state.find? (name :: outer) = none := by
  obtain ⟨extra, children, runs⟩ := adds.children
  rw [find?_child] at nothing ⊢
  rw [Option.map_eq_none_iff] at nothing ⊢
  rw [children, List.find?_append, nothing, Option.none_or, List.find?_eq_none]
  intro entry entryIn
  simp only [decide_eq_true_eq]
  intro same
  obtain ⟨runId, run⟩ := Option.isSome_iff_exists.mp named
  have listed : runId ∈ extra.filterMap (fun entry => namedRun? entry.1) :=
    List.mem_filterMap.mpr ⟨entry, entryIn, by rw [same, run]⟩
  rw [runs] at listed
  split at listed
  next =>
    rw [List.mem_singleton.mp listed] at run
    exact other run
  next => cases listed

/-- The run of the append is read as it was recorded, or not at all. -/
theorem get_own (entry : opened.locateEntry (recordPath root record.runId) = .ok (some (recordName record.runId :: outer))) :
    get root record.runId state = .ok (if linked then some record else none) := by
  have stays := adds.grows.follows.locateEntry entry
  have held := adds.filed
  cases linked with
  | false => exact get_of_vacant (vacancy_iff.mpr ⟨stays, held⟩)
  | true => exact get_of_payload (adds.printable rfl) stays held

include leads

/-- The other runs are read as they were. -/
theorem get_other (unbroken : Unbroken root opened) (other : runId ≠ record.runId) : get root runId state = get root runId opened := by
  apply get_congr
  cases found : opened.open? (recordPath root runId) with
  | ok node => exact adds.grows.open? found
  | error failure =>
    by_cases missing : failure = .missing
    · subst missing
      cases spelled : steps? (recordPath root runId) with
      | error failure =>
        unfold open? at found ⊢
        rw [locate_eq, spelled] at found ⊢
        exact found
      | ok names =>
        obtain ⟨plain, proper, _⟩ := recordName_named runId
        rw [recordPath_eq, steps?_join plain] at spelled
        have entry : opened.locateEntry (recordPath root runId) = .ok (some (recordName runId :: outer)) := by
          rw [recordPath_eq, locateEntry_join plain proper]
          exact ⟨spelled.1, outer, leads, rfl⟩
        have nothing := unbroken runId _ found entry
        have stillNothing : state.find? (recordName runId :: outer) = none := by
          apply adds.find?_other nothing
          · rw [namedRun?_recordName]
            intro same
            exact other (Option.some.inj same)
          · rw [namedRun?_recordName]
            rfl
        exact open?_of_vacancy (vacancy_iff.mpr ⟨adds.grows.follows.locateEntry entry, stillNothing⟩)
    · exact adds.grows.open?_error found missing

end Adds

end SingleFlight.Ledger.FileStore
