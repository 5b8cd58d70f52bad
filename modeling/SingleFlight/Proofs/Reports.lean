import SingleFlight.Proofs.Readings
import SingleFlight.Proofs.ViewerText
import SingleFlight.Status.Resolve

/-!
Status reports hold together, whatever is in the ledger and among the artifacts. What a report says of the run is
what the latest record says; what it says beyond that comes from the one directory that it names.
-/

namespace SingleFlight

open Text Files

namespace Web.Viewer

open Address

variable {text : String}

/-- Whether an address is in the form in which addresses are shown, and says something. -/
def IsShown (text : String) : Prop := canonicalize text = text ∧ isBlankText text = false

theorem isBlankText_viewer (address : Address) : isBlankText (viewer address).text = false := by
  rw [isBlankText, Address.text, String.toList_ofList, List.all_eq_false, chars_eq]
  exact ⟨':', List.mem_append_right _ List.mem_cons_self, by decide⟩

theorem isShown_viewer {address : Address} (wellFormed : address.WellFormed) : IsShown (viewer address).text := by
  refine ⟨?_, isBlankText_viewer address⟩
  rw [canonicalize, trim_viewer wellFormed]
  split
  next other found => rw [ofText?_viewer wellFormed found, viewer_viewer]
  next => rfl

/-- What says something is shown as something that stays as it is shown. -/
theorem isShown_canonicalize (notBlank : isBlankText text = false) : IsShown (canonicalize text) := by
  cases read : ofText? (trim text) with
  | some address =>
    rw [canonicalize, read]
    exact isShown_viewer (ofText?_wellFormed read)
  | none =>
    have shown : canonicalize text = trim text := by rw [canonicalize, read]
    rw [shown]
    refine ⟨?_, (isBlankText_trim text).trans notBlank⟩
    rw [canonicalize, trim_trim, read]

end Web.Viewer
namespace Status

open Web.Viewer Ledger

variable {tree : Tree} {family : Family} {record : RunRecord} {directory path : Path} {name url : String}

section Sources

theorem isBlankText_of_firstFilled {texts : List (Option String)} (found : firstFilled texts = some url) :
    isBlankText url = false := by
  obtain ⟨text, _, given⟩ := List.exists_of_findSome?_eq_some found
  exact isBlankText_of_filled given

/-- The address of a live session says something. -/
theorem isBlankText_of_liveSession {root : Path} (found : liveSession? tree root = some url) : isBlankText url = false := by
  obtain ⟨session, _, given⟩ := List.exists_of_findSome?_eq_some found
  unfold sessionUrl? at given
  split at given
  next => cases given
  next content _ =>
    split at given
    next => cases given
    next state read =>
      split at given
      next => exact isBlankText_of_firstFilled given
      next => cases given

/-- The links of a directory are the well-known artifacts that there are in it. -/
theorem find?_links : (links tree directory).find? name = some path ↔
    ∃ file, (name, file) ∈ wellKnownArtifacts ∧ path = directory.join file ∧ tree.isFile path = true := by
  have names : (wellKnownArtifacts.map (·.1)).Nodup := by decide
  rw [links, Dictionary.find?_ofList_iff, List.mem_filter, List.mem_map]
  · constructor
    · intro given
      obtain ⟨⟨⟨known, file⟩, knownIn, same⟩, isFile⟩ := given
      obtain ⟨rfl, rfl⟩ := Prod.mk.inj same
      exact ⟨file, knownIn, rfl, isFile⟩
    · intro given
      obtain ⟨file, knownIn, rfl, isFile⟩ := given
      exact ⟨⟨(name, file), knownIn, rfl⟩, isFile⟩
  · apply List.Nodup.sublist (List.Sublist.map _ List.filter_sublist)
    rw [List.map_map]
    exact names

end Sources

/-- A report on the run of a record: what its fields have to do with the record, with the directory that was found for
it, and with each other. -/
structure ReportsOn (tree : Tree) (family : Family) (record : RunRecord) (report : Report) : Prop where
  run : report.runId = some record.runId
  startedAt : report.startedAt = some record.startedAt
  finishedAt : report.finishedAt = some record.finishedAt
  directory : report.directory = findDirectory? tree record family.proofRoot family.gatewayRoot
  /-- Without a directory there is nothing to say but what the record does. -/
  bare : report.directory = none → report = { Report.unknown with
    runId := some record.runId, startedAt := some record.startedAt, finishedAt := some record.finishedAt }
  links : ∀ directory, report.directory = some directory → ∀ name path, report.links.find? name = some path ↔
    ∃ file, (name, file) ∈ wellKnownArtifacts ∧ path = directory.join file ∧ tree.isFile path = true
  waiting : ∀ url, report.liveSession = some url → report.status = .waitingForHuman
  accessUrl : ∀ url, report.accessUrl = some url → IsShown url
  liveSession : ∀ url, report.liveSession = some url → IsShown url
  /-- An address is given as it was found exactly if it is shown in another form. -/
  accessUrlRaw : ∀ text, report.accessUrlRaw = some text ↔ ∃ directory, report.directory = some directory ∧
    filled (extract tree directory).accessUrl = some text ∧ canonicalize text ≠ text
  shownAs : ∀ text, report.accessUrlRaw = some text → report.accessUrl = some (canonicalize text) ∧ canonicalize text ≠ text

theorem liveSessionFor?_cases {status : ShownStatus} (found : liveSessionFor? tree family status = some url) :
    status = .waitingForHuman ∧ IsShown url := by
  unfold liveSessionFor? at found
  split at found
  next waiting =>
    obtain ⟨text, discovered, rfl⟩ := Option.map_eq_some_iff.mp found
    obtain ⟨root, _, session⟩ := Option.bind_eq_some_iff.mp discovered
    exact ⟨waiting, isShown_canonicalize (isBlankText_of_liveSession session)⟩
  next => cases found

theorem bareReport_reportsOn (nowhere : findDirectory? tree record family.proofRoot family.gatewayRoot = none) :
    ReportsOn tree family record (bareReport record) where
  run := rfl
  startedAt := rfl
  finishedAt := rfl
  directory := nowhere.symm
  bare _ := rfl
  links _ never := nomatch never
  waiting _ never := nomatch never
  accessUrl _ never := nomatch never
  liveSession _ never := nomatch never
  accessUrlRaw _ := by simp [bareReport, Report.unknown]
  shownAs _ never := nomatch never

theorem directoryReport_reportsOn (found : findDirectory? tree record family.proofRoot family.gatewayRoot = some directory) :
    ReportsOn tree family record (directoryReport tree family record directory) := by
  have raw (text : String) : (directoryReport tree family record directory).accessUrlRaw = some text ↔
      filled (extract tree directory).accessUrl = some text ∧ canonicalize text ≠ text := by
    simp [directoryReport, Option.filter_eq_some_iff]
  have same (other : Path) : (directoryReport tree family record directory).directory = some other ↔ directory = other :=
    Option.some_inj
  refine ⟨rfl, rfl, rfl, found.symm, nofun, ?_, ?_, ?_, ?_, ?_, ?_⟩
  · intro other isDirectory name path
    obtain rfl := (same other).mp isDirectory
    exact find?_links
  · intro url live
    exact (liveSessionFor?_cases live).1
  · intro url shown
    obtain ⟨text, given, rfl⟩ := Option.map_eq_some_iff.mp shown
    exact isShown_canonicalize (isBlankText_of_filled given)
  · intro url live
    exact (liveSessionFor?_cases live).2
  · intro text
    simp only [raw, same, exists_eq_left']
  · intro text kept
    obtain ⟨given, differs⟩ := (raw text).mp kept
    refine ⟨?_, differs⟩
    change (filled (extract tree directory).accessUrl).map canonicalize = _
    rw [given]
    rfl

theorem resolveRecord_reportsOn (tree : Tree) (family : Family) (record : RunRecord) :
    ReportsOn tree family record (resolveRecord tree family record) := by
  unfold resolveRecord
  split
  next found => exact directoryReport_reportsOn found
  next nowhere => exact bareReport_reportsOn nowhere

/-- Whatever a directory of records and the rest of the files hold: the report on a family says that nothing is known if
none of its records can be read, and otherwise it is one on the run with the greatest id. -/
theorem resolve_reportsOn (root : Path) (tree : Tree) (family : Family) :
    (resolve (FileStore.store root) family tree).2 = tree ∧
    (((∀ record, FileStore.Readable root tree record → family.actions.contains record.action = false) ∧
        (resolve (FileStore.store root) family tree).1 = Report.unknown) ∨
      ∃ record, FileStore.Readable root tree record ∧ family.actions.contains record.action = true ∧
        (∀ other, FileStore.Readable root tree other → family.actions.contains other.action = true →
          other.runId.text ≤ record.runId.text) ∧
        ReportsOn tree family record (resolve (FileStore.store root) family tree).1) := by
  have latest := (FileStore.shows_readable root tree).latest family.actions
  have unchanged : ((FileStore.store root).latest family.actions tree).2 = tree := by
    rw [RunStore.latest, FileStore.listMatching_eq]
  unfold resolve
  generalize (FileStore.store root).latest family.actions tree = answer at latest unchanged ⊢
  obtain ⟨found, after⟩ := answer
  obtain rfl : after = tree := unchanged
  cases found with
  | none => exact ⟨rfl, .inl ⟨latest, rfl⟩⟩
  | some record =>
    obtain ⟨readable, within, greatest⟩ := latest
    exact ⟨rfl, .inr ⟨record, readable, within, greatest, resolveRecord_reportsOn after family record⟩⟩

end Status

end SingleFlight
