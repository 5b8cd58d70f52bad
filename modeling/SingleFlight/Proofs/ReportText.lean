import SingleFlight.Proofs.RecordText
import SingleFlight.Status.Snapshot

/-!
A report that can be written down is read back as it was, with the links in it, from its JSON form and from the bytes
of its snapshot.
-/

namespace SingleFlight

open Text Time

namespace Dictionary

variable {α : Type}

/-- Two dictionaries that agree on every name are the same. -/
theorem eq_of_find? {first second : Dictionary α} (same : ∀ name, first.find? name = second.find? name) : first = second := by
  have nodup (dictionary : Dictionary α) : dictionary.entries.Nodup := by
    apply dictionary.sorted.imp
    rintro one other less rfl
    exact String.lt_irrefl _ less
  have members (entry : String × α) : entry ∈ first.entries ↔ entry ∈ second.entries := by
    obtain ⟨name, value⟩ := entry
    rw [mem_entries, mem_entries, same]
  have entries : first.entries = second.entries := by
    apply List.Perm.eq_of_pairwise _ first.sorted second.sorted
    · exact (List.perm_ext_iff_of_nodup (nodup first) (nodup second)).mpr members
    · exact fun one other _ _ before after => absurd before (String.lt_asymm after)
  cases first
  cases second
  cases entries
  rfl

theorem ofList_entries (dictionary : Dictionary α) : ofList dictionary.entries = dictionary := by
  apply eq_of_find?
  intro name
  apply Option.ext
  intro value
  rw [find?_ofList_iff dictionary.nodup_names, mem_entries]

end Dictionary

namespace Json

theorem map?_map {α : Type} (write : α → Json) (read : Json → Option α) (entries : List (String × α))
    (back : ∀ entry ∈ entries, read (write entry.2) = some entry.2) :
    map? read (.object (entries.map fun entry => (entry.1, write entry.2))) = some entries := by
  rw [map?]
  induction entries with
  | nil => rfl
  | cons entry rest ih =>
    rw [List.map_cons, List.mapM_cons, back entry List.mem_cons_self,
      ih fun other among => back other (List.mem_cons_of_mem entry among)]
    rfl

theorem arePlainFields_map {α : Type} (write : α → Json) (plain : ∀ value, isPlain (write value) = true)
    (entries : List (String × α)) : arePlainFields (entries.map fun entry => (entry.1, write entry.2)) = true := by
  induction entries with
  | nil => rfl
  | cons entry rest ih => rw [List.map_cons, arePlainFields, plain, ih]; rfl

theorem isPlain_ofOption {α : Type} {write : α → Json} (plain : ∀ value, isPlain (write value) = true) (value : Option α) :
    isPlain (ofOption write value) = true := by
  cases value with
  | none => rfl
  | some value => exact plain value

end Json

namespace Status.Report

theorem isPlain_toJson (report : Report) : Json.isPlain report.toJson = true := by
  have links := Json.arePlainFields_map Json.ofPath (fun _ => rfl) report.links.entries
  have text (value : Option String) : Json.isPlain (.ofTextOption value) = true := Json.isPlain_ofOption (fun _ => rfl) value
  have time (value : Option Timestamp) : Json.isPlain (.ofOption .ofTime value) = true :=
    Json.isPlain_ofOption (fun _ => rfl) value
  have directory : Json.isPlain (.ofOption .ofPath report.directory) = true := Json.isPlain_ofOption (fun _ => rfl) _
  have runId : Json.isPlain (.ofOption (fun runId : RunId => .text runId.text) report.runId) = true :=
    Json.isPlain_ofOption (fun _ => rfl) _
  simp only [toJson, Json.isPlain, Json.arePlainFields, text, time, directory, runId, Bool.true_and, Bool.and_true]
  exact links

/-- Each field is found under its own name. -/
theorem ofJson?_toJson {report : Report} (printable : report.isPrintable = true) : ofJson? report.toJson = some report := by
  simp only [isPrintable, Bool.and_eq_true, Option.all_eq_true] at printable
  obtain ⟨⟨⟨started, finished⟩, directoryText⟩, linksText⟩ := printable
  have text (value : Option String) : Json.nullable? Json.text? (.ofOption Json.text value) = some value :=
    Json.nullable?_ofOption (fun _ => rfl) fun _ _ => rfl
  have runId : Json.nullable? Json.runId? (.ofOption (fun runId : RunId => .text runId.text) report.runId) =
      some report.runId := Json.nullable?_ofOption (fun _ => rfl) fun runId _ => Json.runId?_text runId
  have time {value : Option Timestamp} (printable : ∀ time ∈ value, time.isPrintable = true) :
      Json.nullable? Json.time? (.ofOption .ofTime value) = some value :=
    Json.nullable?_ofOption (fun _ => rfl) fun time found => Json.time?_ofTime (printable time found)
  have directory : Json.nullable? Json.path? (.ofOption .ofPath report.directory) = some report.directory :=
    Json.nullable?_ofOption (fun _ => rfl) fun path found => Json.path?_ofPath (directoryText path found)
  have links := Json.map?_map Json.ofPath Json.path? report.links.entries fun entry among =>
    Json.path?_ofPath (List.all_eq_true.mp linksText entry among)
  simp [ofJson?, toJson, Json.fields?, fieldNames, Json.countName, Json.Fields.required?, Json.Fields.optional?,
    Json.Fields.find?, Json.name?, ShownStatus.ofName?_name, Json.ofTextOption, text, runId, directory,
    time started, time finished, links, Dictionary.ofList_entries]

/-- What the bytes of a snapshot say. -/
def decode? (content : List Byte) : Option Report := (Json.ofBytes? content).bind ofJson?

/-- The bytes of a report's snapshot are read as that report. -/
theorem decode?_snapshotContent {report : Report} (printable : report.isPrintable = true) :
    decode? (snapshotContent report) = some report := by
  rw [decode?, snapshotContent, Json.ofBytes?_indented _ report.isPlain_toJson, Option.bind_some, ofJson?_toJson printable]

end Status.Report

end SingleFlight
