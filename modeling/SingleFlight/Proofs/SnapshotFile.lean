import SingleFlight.Proofs.Agreement
import SingleFlight.Proofs.Interruption
import SingleFlight.Proofs.LastNames
import SingleFlight.Proofs.ReportText

/-!
Snapshots are replaced whole or not at all. Main statement: a snapshot that is written takes the one place that its path
names, with the whole report in it, and one that is not written leaves nothing behind but directories on the way there.
-/

namespace SingleFlight

open Files Files.Tree Text OsText

/-- What is put in the place that a path names is read under that path, unless it leads through what stood there. -/
theorem Files.Tree.IsDirect.read_put {tree : Tree} {path : Path} {location : Location} (direct : tree.IsDirect path location)
    (content : List Byte) :
    (tree.put location (.file content)).read path = .ok content := by
  have vacated : (tree.erase location).find? location = none := by rw [find?_erase, if_pos rfl]
  have named := (grows_put vacated (show Node.isLink (.file content) = false from rfl)).follows.locateEntry direct
  rw [put_erase] at named
  apply Ledger.FileStore.read_of_entry named
  rw [find?_put, if_pos rfl]

namespace Status

open Ledger.FileStore (Cut)

variable {path : Path} {nonce : UInt32} {report : Report} {tree opened : Tree} {staging location : Location}

section Name

/-- The name that a snapshot is staged under. -/
def snapshotName (path : Path) (nonce : UInt32) : OsText :=
  ("." ++ (path.fileName?.bind OsText.text?).getD "status" ++ "." ++
    String.ofList (hexPadded 8 nonce.toNat) ++ ".tmp" : String)

theorem snapshotStaging_eq (path : Path) (nonce : UInt32) :
    ∃ beside : Path, snapshotStaging path nonce = beside.join (snapshotName path nonce) := by
  unfold snapshotStaging Path.withFileName
  split
  next => exact ⟨_, rfl⟩
  next => exact ⟨_, rfl⟩

theorem snapshotName_eq : snapshotName path nonce =
    Utf8.ofString "." ++ Utf8.ofString ((path.fileName?.bind OsText.text?).getD "status") ++ Utf8.ofString "." ++
      Utf8.ofString (String.ofList (hexPadded 8 nonce.toNat)) ++ Utf8.ofString ".tmp" := by
  simp only [snapshotName, Utf8.ofString_append]

theorem noSlash_snapshotBase : slash ∉ Utf8.ofString ((path.fileName?.bind OsText.text?).getD "status") := by
  cases named : path.fileName? with
  | none => decide
  | some name =>
    rw [Option.bind_some]
    cases read : OsText.text? name with
    | none => decide
    | some text =>
      rw [Option.getD_some, ← OsText.text?_iff.mp read]
      exact Path.noSlash_fileName? named

theorem isPlain_snapshotName (noNull : 0 ∉ snapshotName path nonce) : IsPlain (snapshotName path nonce) := by
  refine ⟨?_, ?_, noNull⟩
  · rw [snapshotName_eq]
    exact fun empty => by simp [Utf8.ofString_eq_nil] at empty
  · rw [snapshotName_eq]
    simp only [List.mem_append, not_or]
    refine ⟨⟨⟨⟨by decide, noSlash_snapshotBase⟩, by decide⟩, ?_⟩, by decide⟩
    intro slash
    have inHex := Utf8.mem_of_mem_ofString (by decide) slash
    rw [String.toList_ofList] at inHex
    have isName := List.all_eq_true.mp (Ledger.FileStore.all_isNameChar_hexPadded 8 nonce.toNat) _ inHex
    exact (Ledger.FileStore.ascii_of_isNameChar isName).2.1 rfl

theorem snapshotName_ne : snapshotName path nonce ≠ dot ∧ snapshotName path nonce ≠ dots := by
  have long : 2 < (snapshotName path nonce).length := by
    have ending : (Utf8.ofString ".tmp").length = 4 := by decide
    rw [snapshotName_eq, List.length_append, ending]
    omega
  constructor
  · intro isDot
    rw [isDot] at long
    exact absurd long (by decide)
  · intro isDots
    rw [isDots] at long
    exact absurd long (by decide)

theorem steps?_snapshotStaging {names : List OsText} (spelled : steps? (snapshotStaging path nonce) = .ok names) :
    ∃ init, names = init ++ [snapshotName path nonce] := by
  obtain ⟨beside, same⟩ := snapshotStaging_eq path nonce
  rw [same] at spelled
  have noNull : 0 ∉ snapshotName path nonce := by
    obtain ⟨front, ends⟩ := beside.join_ends (snapshotName path nonce)
    intro null
    apply (steps?_ok spelled).1
    rw [ends]
    exact List.mem_append_right front null
  exact ⟨_, ((steps?_join (isPlain_snapshotName noNull)).mp spelled).2⟩

end Name

/-- Whether the name that a snapshot is staged under is free: where it stands once the directories on the way to the
snapshot are there, nothing stood before. -/
def SnapshotStagingFree (path : Path) (nonce : UInt32) (tree : Tree) : Prop :=
  ∀ location, (makeOuterDirectories path tree).2.locateEntry (snapshotStaging path nonce) = .ok (some location) →
    tree.find? location = none

theorem makeOuterDirectories_paved (path : Path) (tree : Tree) : Paved path tree (makeOuterDirectories path tree).2 := by
  unfold makeOuterDirectories
  split
  next outer above =>
    obtain ⟨above, _⟩ := Option.filter_eq_some_iff.mp above
    exact (makeDirectories_paved tree outer).outwards above
  next => exact .start

/-- A snapshot that has a place to be staged in takes its own place, unless a directory stands there. -/
theorem performAll_moved (staged : opened.vacancy (snapshotStaging path nonce) = .ok staging)
    (named : opened.locateEntry path = .ok (some location))
    (noDirectory : ∀ held, opened.find? location = some held → held.isDirectory = false) (content : List Byte) :
    opened.performAll (stageAndMove (snapshotStaging path nonce) path content) = (.ok (), opened.put location (.file content)) := by
  simp only [stageAndMove, performAll, perform_create staged, perform_write staged, perform_sync staged,
    perform_rename staged content named noDirectory]

section Effects

variable (paved : Paved path tree opened)
  (free : ∀ location, opened.locateEntry (snapshotStaging path nonce) = .ok (some location) → tree.find? location = none)

include paved free

/-- A staging file that finds no place is not made. -/
theorem perform_create_unstaged (unstaged : ∀ staging, opened.vacancy (snapshotStaging path nonce) ≠ .ok staging) :
    ∃ failure, opened.perform (.create (snapshotStaging path nonce)) = .error failure := by
  cases located : opened.locate (snapshotStaging path nonce) with
  | error failure => exact ⟨failure, by simp [perform, located, bind, Except.bind]⟩
  | ok location =>
    obtain ⟨names, spelled, _⟩ := bind_ok located
    obtain ⟨init, rfl⟩ := steps?_snapshotStaging spelled
    obtain ⟨outer, entry⟩ := locateEntry_of_locate spelled snapshotName_ne.1 snapshotName_ne.2 located
    have nothing := free _ entry
    have made : opened.find? (snapshotName path nonce :: outer) = some (.directory 0) := by
      rcases paved.find? (snapshotName path nonce :: outer) with same | ⟨_, made⟩
      · exact absurd (vacancy_iff.mpr ⟨entry, same.trans nothing⟩) (unstaged _)
      · exact made
    have same := located.symm.trans (locate_of_locateEntry entry (by simp [made]))
    cases same
    exact ⟨.isDirectory, by simp [perform, located, made, Node.isDirectory, bind, Except.bind]⟩

/-- Wherever the work on a staged snapshot breaks off before it is moved, the tree is what it was once the staging file is
taken away. -/
theorem attempt_remove_of_cut {content : List Byte} {done : List Effect}
    (cut : Cut done (stageAndMove (snapshotStaging path nonce) path content).dropLast) :
    (opened.performAll done).2.attempt (.remove (snapshotStaging path nonce)) = opened := by
  have untouched := attempt_remove_staging paved free
  by_cases staged : ∃ staging, opened.vacancy (snapshotStaging path nonce) = .ok staging
  · obtain ⟨staging, staged⟩ := staged
    have restored (part : List Byte) :
        (opened.put staging (.file part)).attempt (.remove (snapshotStaging path nonce)) = opened := by
      rw [attempt, perform_unstage staged]
    rcases cut.cases_cons (by simp) (perform_create staged) with rfl | ⟨later, cut, _, ran⟩
    · exact untouched
    · rw [ran]
      cases cut with
      | between => exact restored []
      | within _ _ count =>
        rw [performAll, perform_write staged]
        exact restored _
      | @behind _ last _ cut =>
        rw [performAll, perform_write staged]
        dsimp only
        rcases cut.cases_cons (by simp) (perform_sync staged content) with rfl | ⟨rest, cut, _, ran⟩
        · exact restored content
        · rw [ran, cut.eq_nil]
          exact restored content
  · rw [not_exists] at staged
    obtain ⟨failure, failed⟩ := perform_create_unstaged paved free staged
    cases cut with
    | between => exact untouched
    | @behind _ later _ cut =>
      rw [performAll, failed]
      exact untouched

/-- A snapshot takes its place, or the work on it breaks off before. -/
theorem performAll_stageAndMove (content : List Byte) :
    (∃ failure done, Cut done (stageAndMove (snapshotStaging path nonce) path content).dropLast ∧
      opened.performAll (stageAndMove (snapshotStaging path nonce) path content) = (.error failure, (opened.performAll done).2)) ∨
      ∃ location, opened.locateEntry path = .ok (some location) ∧
        (∀ held, opened.find? location = some held → held.isDirectory = false) ∧
        opened.performAll (stageAndMove (snapshotStaging path nonce) path content) =
          (.ok (), opened.put location (.file content)) := by
  by_cases staged : ∃ staging, opened.vacancy (snapshotStaging path nonce) = .ok staging
  · obtain ⟨staging, staged⟩ := staged
    rcases rename_cases staged content path with ⟨failure, failed⟩ | ⟨location, named, noDirectory⟩
    · refine .inl ⟨failure, _, Cut.whole _, ?_⟩
      simp only [stageAndMove, List.dropLast_cons_cons, List.dropLast_singleton, performAll, perform_create staged,
        perform_write staged, perform_sync staged, failed]
    · exact .inr ⟨location, named, noDirectory, performAll_moved staged named noDirectory content⟩
  · rw [not_exists] at staged
    obtain ⟨failure, failed⟩ := perform_create_unstaged paved free staged
    refine .inl ⟨failure, [], .between _, ?_⟩
    simp only [stageAndMove, performAll, failed]

end Effects

/-- What can come of writing a snapshot: the file in the place that the path names, or a fault and nothing new but
directories. -/
inductive SnapshotResult (path : Path) (report : Report) (tree : Tree) : SnapshotOutcome × Tree → Prop where
  | written {opened : Tree} {location : Location} (printable : report.isPrintable = true) (paved : Paved path tree opened)
    (named : opened.locateEntry path = .ok (some location))
    (noDirectory : ∀ held, opened.find? location = some held → held.isDirectory = false) :
    SnapshotResult path report tree (.written, opened.put location (.file (snapshotContent report)))
  | failed {opened : Tree} (paved : Paved path tree opened) (fault : Fault) :
    SnapshotResult path report tree (.failed fault, opened)

theorem writeSnapshot_result (report : Report) (free : SnapshotStagingFree path nonce tree) :
    SnapshotResult path report tree (writeSnapshot path nonce report tree) := by
  have paved := makeOuterDirectories_paved path tree
  unfold SnapshotStagingFree at free
  unfold writeSnapshot
  split
  next printable =>
    cases made : makeOuterDirectories path tree with
    | mk answer opened =>
      rw [made] at paved free
      cases answer with
      | error failure => exact .failed paved _
      | ok =>
        dsimp only
        rcases performAll_stageAndMove paved free (snapshotContent report) with
          ⟨failure, done, cut, ran⟩ | ⟨location, named, noDirectory, ran⟩
        · rw [ran]
          dsimp only
          rw [attempt_remove_of_cut paved free cut]
          exact .failed paved _
        · rw [ran]
          exact .written printable paved named noDirectory
  next => exact .failed .start _

theorem writeSnapshot_eq (printable : report.isPrintable = true) (made : makeOuterDirectories path tree = (.ok (), opened))
    (staged : opened.vacancy (snapshotStaging path nonce) = .ok staging) (named : opened.locateEntry path = .ok (some location))
    (noDirectory : ∀ held, opened.find? location = some held → held.isDirectory = false) :
    writeSnapshot path nonce report tree = (.written, opened.put location (.file (snapshotContent report))) := by
  unfold writeSnapshot
  rw [if_pos printable, made]
  dsimp only
  rw [performAll_moved staged named noDirectory]

/-- Whether the snapshot of a report has taken the one place that a path names, once the directories on the way there have
been made, and every other place is as it was. -/
structure IsReplaced (path : Path) (report : Report) (tree opened : Tree) (location : Location) (after : Tree) : Prop where
  paved : Paved path tree opened
  named : opened.locateEntry path = .ok (some location)
  decoded : ∃ content, after.find? location = some (.file content) ∧ Report.decode? content = some report
  others : ∀ other, other ≠ location → after.find? other = opened.find? other
  read : opened.IsDirect path location → ∃ content, after.read path = .ok content ∧ Report.decode? content = some report
  direct : (∀ target, tree.find? location ≠ some (.link target)) → opened.IsDirect path location

theorem isReplaced_put (printable : report.isPrintable = true) (paved : Paved path tree opened)
    (named : opened.locateEntry path = .ok (some location))
    (noDirectory : ∀ held, opened.find? location = some held → held.isDirectory = false) :
    IsReplaced path report tree opened location (opened.put location (.file (snapshotContent report))) where
  paved := paved
  named := named
  decoded := ⟨snapshotContent report, by rw [find?_put, if_pos rfl], Report.decode?_snapshotContent printable⟩
  others other different := by rw [find?_put, if_neg different]
  read direct := ⟨snapshotContent report, direct.read_put _, Report.decode?_snapshotContent printable⟩
  direct noLink := by
    apply isDirect_of_noLink named noDirectory
    intro target link
    exact noLink target (paved.grows.links location target link)

/-- A snapshot that is written has taken the place that its path names, whole, and nothing else has changed but that
missing directories on the way there were made; it is read under its path, unless the path leads through a link that stood
in that very place. One that is not written leaves nothing but such directories, wherever the work on it broke off, and it
is written where nothing is in the way. The status that is reported is the one that was resolved, in each case and where no
snapshot is to be written. -/
theorem snapshot_replaced_whole (report : Report) (free : SnapshotStagingFree path nonce tree) :
    (∀ after, writeSnapshot path nonce report tree = (.written, after) →
      ∃ opened location, IsReplaced path report tree opened location after) ∧
    (∀ fault after, writeSnapshot path nonce report tree = (.failed fault, after) → Paved path tree after) ∧
    (writeSnapshot path nonce report tree).1 ≠ .skipped ∧
    (∀ opened done, makeOuterDirectories path tree = (.ok (), opened) →
      Cut done (stageAndMove (snapshotStaging path nonce) path (snapshotContent report)).dropLast →
      (opened.performAll done).2.attempt (.remove (snapshotStaging path nonce)) = opened) ∧
    (∀ opened staging location, report.isPrintable = true → makeOuterDirectories path tree = (.ok (), opened) →
      opened.vacancy (snapshotStaging path nonce) = .ok staging → opened.locateEntry path = .ok (some location) →
      (∀ held, opened.find? location = some held → held.isDirectory = false) →
      (writeSnapshot path nonce report tree).1 = .written) ∧
    ∀ (store : Ledger.RunStore Tree) (family : Family) (nonce : UInt32) (tree : Tree),
      (resolveAndSnapshot store family nonce tree).1.1 = (resolve store family tree).1 ∧
      (family.snapshot = none →
        resolveAndSnapshot store family nonce tree = (((resolve store family tree).1, .skipped), (resolve store family tree).2)) ∧
      ∀ path, family.snapshot = some path → ((resolveAndSnapshot store family nonce tree).1.2, (resolveAndSnapshot store family nonce tree).2) =
        writeSnapshot path nonce (resolve store family tree).1 (resolve store family tree).2 := by
  have result := writeSnapshot_result report free
  refine ⟨?_, ?_, ?_, ?_, ?_, ?_⟩
  · intro after written
    rw [written] at result
    cases result with
    | written printable paved named noDirectory => exact ⟨_, _, isReplaced_put printable paved named noDirectory⟩
  · intro fault after failed
    rw [failed] at result
    cases result with
    | failed paved => exact paved
  · generalize writeSnapshot path nonce report tree = written at result
    cases result <;> exact fun never => by cases never
  · intro opened done made cut
    have paved := makeOuterDirectories_paved path tree
    unfold SnapshotStagingFree at free
    rw [made] at paved free
    exact attempt_remove_of_cut paved free cut
  · intro opened staging location printable made staged named noDirectory
    rw [writeSnapshot_eq printable made staged named noDirectory]
  · intro store family nonce tree
    unfold resolveAndSnapshot
    cases family.snapshot with
    | none => exact ⟨rfl, fun _ => rfl, nofun⟩
    | some path => exact ⟨rfl, nofun, fun _ same => by cases same; rfl⟩

/-- In a directory that is there, a snapshot goes under its name and is staged beside that. -/
theorem snapshot_beside {outer : Path} {place : Location} {node : Node} {name staged : OsText}
    (located : tree.locate outer = .ok place) (held : tree.find? place = some node) (isDirectory : node.isDirectory = true)
    (above : path.parent? = some outer) (filled : outer.text.isEmpty = false)
    (joined : path = outer.join name) (named : IsPlain name ∧ IsProper name ∧ Fits outer name)
    (beside : snapshotStaging path nonce = outer.join staged) (stagedNamed : IsPlain staged ∧ IsProper staged ∧ Fits outer staged) :
    makeOuterDirectories path tree = (.ok (), tree) ∧ tree.locateEntry path = .ok (some (name :: place)) ∧
      tree.locateEntry (snapshotStaging path nonce) = .ok (some (staged :: place)) := by
  have leads := leadsTo_of_locate located held isDirectory
  refine ⟨?_, ?_, ?_⟩
  · have is : tree.isDirectory outer = true := isDirectory_iff.mpr ⟨place, node, located, held, isDirectory⟩
    rw [makeOuterDirectories, above, Option.filter_some, filled]
    exact makeDirectories_of_isDirectory is
  · obtain ⟨plain, proper, fits⟩ := named
    rw [joined, locateEntry_join plain proper]
    exact ⟨fits, place, leads, rfl⟩
  · obtain ⟨plain, proper, fits⟩ := stagedNamed
    rw [beside, locateEntry_join plain proper]
    exact ⟨fits, place, leads, rfl⟩

/-- A report with a time, a link and an instruction in it. -/
def shownReport : Report :=
  { Report.unknown with
    status := .waitingForHuman
    instruction := some "open the window"
    startedAt := some Ledger.sample.startedAt
    links := Dictionary.ofList [("result", .ofText "/work/run/result.json")] }

/-- An earlier snapshot gives way to a later one. -/
theorem snapshot_replaced_whole_earlier :
    let earlier := Tree.empty.put ["status.json", "work"] (.file (Utf8.ofString "an earlier one"))
    SnapshotStagingFree (.ofText "/work/status.json") 7 earlier ∧
    ∃ after, writeSnapshot (.ofText "/work/status.json") 7 shownReport earlier = (.written, after) ∧
      ∃ content, after.read (.ofText "/work/status.json") = .ok content ∧ Report.decode? content =
        some shownReport := by
  intro earlier
  have located := (Ledger.leads_work earlier rfl rfl).2
  obtain ⟨made, named, staging⟩ : _ ∧ _ ∧ earlier.locateEntry (snapshotStaging (.ofText "/work/status.json") 7) =
      .ok (some [".status.json.00000007.tmp", "work"]) :=
    snapshot_beside located rfl rfl (by decide) (by decide) (show _ = Path.join _ "status.json" by decide)
      ⟨⟨by decide, by decide, by decide⟩, by decide, by decide, by decide⟩ (by decide +kernel)
      ⟨⟨by decide, by decide, by decide⟩, by decide, by decide, by decide⟩
  have free : SnapshotStagingFree (.ofText "/work/status.json") 7 earlier := by
    intro location entry
    rw [made, staging] at entry
    cases entry
    rfl
  have noDirectory : ∀ held, earlier.find? ["status.json", "work"] = some held → held.isDirectory = false := by
    rintro held ⟨⟩
    rfl
  obtain ⟨replaced, _, _, _, written, _⟩ := snapshot_replaced_whole shownReport free
  have outcome := written earlier _ _ (by decide +kernel) made (vacancy_iff.mpr ⟨staging, rfl⟩) named noDirectory
  refine ⟨free, _, Prod.ext outcome rfl, ?_⟩
  obtain ⟨opened, location, isReplaced⟩ := replaced _ (Prod.ext outcome rfl)
  apply isReplaced.read
  apply isReplaced.direct
  intro target link
  rw [find?_put] at link
  split at link
  next => cases link
  next =>
    rw [find?_iff] at link
    simp [Tree.empty] at link

/-- Where the path of a snapshot leads through the link that it names, the snapshot that takes the place of the link cuts
the path off: it is written, and nothing can be read under its path. -/
theorem snapshot_behind_link :
    let linked := (Tree.empty.put ["sub", "work"] (.directory 0)).put ["link", "work"] (.link "sub")
    SnapshotStagingFree (.ofText "/work/link/../link") 7 linked ∧
    ∃ after, writeSnapshot (.ofText "/work/link/../link") 7 Report.unknown linked = (.written, after) ∧
      after.read (.ofText "/work/link/../link") = .error .notDirectory := by
  intro linked
  have root : linked.find? [] = some (.directory 0) := rfl
  have work : linked.find? ["work"] = some (.directory 0) := rfl
  have sub : linked.find? ["sub", "work"] = some (.directory 0) := rfl
  have link : linked.find? ["link", "work"] = some (.link "sub") := rfl
  have target : steps "sub" ++ [dots] = [Utf8.ofString "sub", dots] := by decide
  have followed : linked.walk linkLimit ["work"] ["link", dots] = linked.walk 39 ["work"] (steps "sub" ++ [dots]) :=
    walk_link work rfl (by decide) link
  have walked : linked.walk linkLimit [] ["work", "link", dots] = .ok ["work"] := by
    rw [walk_name root rfl (by decide) (noLink_of work rfl), followed, target,
      walk_name work rfl (by decide) (noLink_of sub rfl), walk_dots sub rfl]
    exact walk_nil _ _ _
  have spelled : steps? (.ofText "/work/link/..") = .ok ["work", "link", dots] := by decide
  have located : linked.locate (.ofText "/work/link/..") = .ok ["work"] := (locate_of_steps spelled).trans walked
  obtain ⟨made, named, staging⟩ : _ ∧ _ ∧ linked.locateEntry (snapshotStaging (.ofText "/work/link/../link") 7) =
      .ok (some [".link.00000007.tmp", "work"]) :=
    snapshot_beside located rfl rfl (by decide) (by decide) (show _ = Path.join _ "link" by decide)
      ⟨⟨by decide, by decide, by decide⟩, by decide, by decide, by decide⟩ (by decide +kernel)
      ⟨⟨by decide, by decide, by decide⟩, by decide, by decide, by decide⟩
  have noDirectory : ∀ held, linked.find? ["link", "work"] = some held → held.isDirectory = false := by
    rintro held ⟨⟩
    rfl
  refine ⟨?_, _, writeSnapshot_eq (by decide) made (vacancy_iff.mpr ⟨staging, rfl⟩) named noDirectory, ?_⟩
  · intro location entry
    rw [made, staging] at entry
    cases entry
    rfl
  · let after := linked.put ["link", "work"] (.file (snapshotContent Report.unknown))
    have file : after.find? ["link", "work"] = some (.file (snapshotContent Report.unknown)) := rfl
    have stopped : after.locate (.ofText "/work/link/../link") = .error .notDirectory := by
      have spelledOn : steps? (.ofText "/work/link/../link") = .ok ["work", "link", dots, "link"] := by decide
      rw [locate_of_steps spelledOn]
      change after.walk linkLimit [] ["work", "link", dots, "link"] = _
      have rootStays : after.find? [] = some (.directory 0) := rfl
      have workStays : after.find? ["work"] = some (.directory 0) := rfl
      rw [walk_name rootStays rfl (by decide) (noLink_of workStays rfl),
        walk_name workStays rfl (by decide) (noLink_of file rfl)]
      exact walk_notDirectory file rfl
    change after.read (.ofText "/work/link/../link") = _
    rw [Tree.read, open?, stopped]
    rfl

end Status

end SingleFlight
