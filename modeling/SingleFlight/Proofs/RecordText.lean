import SingleFlight.Ledger.FileStore
import SingleFlight.Proofs.JsonText
import SingleFlight.Proofs.Rfc3339Text
import SingleFlight.Proofs.Spelling

/-!
A record that can be written down is read back as it was, field by field, from its JSON form and from the
bytes of its file.
-/

namespace SingleFlight

open Text Time

namespace Json

theorem time?_ofTime {time : Timestamp} (printable : time.isPrintable = true) : time? (ofTime time) = some time := by
  rw [time?, ofTime, text?, Option.bind_some, Timestamp.ofText?_text printable]

theorem path?_ofPath {path : Path} (isText : path.isText = true) : path? (ofPath path) = some path := by
  rw [path?, ofPath, text?, Option.map_some, Path.ofText, Path.shown, OsText.ofString_shown isText]

theorem runId?_text (runId : RunId) : runId? (.text runId.text) = some runId := by
  rw [runId?, text?, Option.bind_some, RunId.ofText?, dif_pos runId.valid]

theorem word?_ofNat {bits value : Nat} (small : value < 2 ^ bits) : word? bits (ofNat value) = some value := by
  have cast : ((2 ^ bits : Nat) : Int) = (Nat.pow 2 bits : Int) := rfl
  rw [word?, ofNat, within?, if_pos (by omega)]
  rfl

theorem milliseconds?_ofNat (duration : Milliseconds) : milliseconds? (ofNat duration.toNat) = some duration := by
  rw [milliseconds?, word?_ofNat duration.toNat_lt, Option.map_some, UInt64.ofNat_toNat]

theorem exitCode?_ofInt (code : Int32) : exitCode? (.number code.toInt) = some code := by
  have least := Int32.le_toInt code
  have greatest := Int32.toInt_lt code
  rw [exitCode?, signed32?, within?, if_pos (by omega), Option.map_some, Int32.ofInt_toInt]

/-- A value that may be missing is read back, if the value itself is and is not written as null. -/
theorem nullable?_ofOption {α : Type} {write : α → Json} {read : Json → Option α} {given : Option α}
    (notNull : ∀ value, (write value).isNull = false) (back : ∀ value ∈ given, read (write value) = some value) :
    nullable? read (ofOption write given) = some given := by
  cases given with
  | none => rfl
  | some value =>
    have filled := notNull value
    rw [ofOption, nullable?]
    · rw [back value rfl]
      rfl
    · intro null
      rw [null] at filled
      cases filled

theorem list?_map {α : Type} (write : α → Json) (read : Json → Option α) (values : List α)
    (back : ∀ value ∈ values, read (write value) = some value) :
      list? read (.list (values.map write)) = some values := by
  rw [list?]
  induction values with
  | nil => rfl
  | cons value rest ih =>
    rw [List.map_cons, List.mapM_cons, back value List.mem_cons_self,
      ih fun other among => back other (List.mem_cons_of_mem value among)]
    rfl

theorem arePlainItems_map {α : Type} (write : α → Json) (plain : ∀ value, isPlain (write value) = true)
    (values : List α) : arePlainItems (values.map write) = true := by
  induction values with
  | nil => rfl
  | cons value rest ih => rw [List.map_cons, arePlainItems, plain, ih]; rfl

end Json

namespace RunRecord

theorem isPlain_toJson (record : RunRecord) : Json.isPlain record.toJson = true := by
  have paths := Json.arePlainItems_map Json.ofPath (fun _ => rfl) record.artifactPaths
  obtain ⟨runId, project, action, startedAt, finishedAt, status, exitCode, duration, errorSummary, artifactPaths⟩ := record
  cases exitCode <;> cases errorSummary <;>
    simpa [toJson, Json.isPlain, Json.arePlainFields, Json.ofTime, Json.ofExitCode, Json.ofOption, Json.ofTextOption,
      Json.ofNat] using paths

/-- Each field is found under its own name. -/
theorem ofJson?_toJson {record : RunRecord} (printable : record.isPrintable = true) :
    ofJson? record.toJson = some record := by
  simp only [isPrintable, isTimed, Bool.and_eq_true] at printable
  obtain ⟨⟨started, finished⟩, spelled⟩ := printable
  have exitCode : Json.nullable? Json.exitCode? (.ofOption (fun code => .number code.toInt) record.exitCode) =
      some record.exitCode := Json.nullable?_ofOption (fun _ => rfl) fun code _ => Json.exitCode?_ofInt code
  have errorSummary : Json.nullable? Json.text? (.ofOption .text record.errorSummary) = some record.errorSummary :=
    Json.nullable?_ofOption (fun _ => rfl) fun _ _ => rfl
  have paths := Json.list?_map Json.ofPath Json.path? record.artifactPaths fun path among =>
    Json.path?_ofPath (List.all_eq_true.mp spelled path among)
  simp [ofJson?, toJson, Json.fields?, fieldNames, Json.countName, Json.Fields.required?, Json.Fields.optional?,
    Json.Fields.defaulted?, Json.Fields.find?, Json.runId?_text, Json.time?_ofTime started,
    Json.time?_ofTime finished, Json.milliseconds?_ofNat, Json.text?, Json.name?, RunStatus.ofName?_name, paths,
    Json.ofExitCode, exitCode, Json.ofTextOption, errorSummary]

end RunRecord

/-- The bytes of a record's file are read as that record. -/
theorem Ledger.FileStore.decode?_payload {record : RunRecord} (printable : record.isPrintable = true) :
    decode? (payload record) = some record := by
  rw [decode?, payload, Json.ofBytes?_indented _ record.isPlain_toJson, Option.bind_some,
    RunRecord.ofJson?_toJson printable]

end SingleFlight
