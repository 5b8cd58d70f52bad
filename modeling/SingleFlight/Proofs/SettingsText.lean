import SingleFlight.Config.Format
import SingleFlight.Proofs.ReportText

/-!
Settings whose paths are texts are read back as they were from their JSON form.
-/

namespace SingleFlight

open Text

namespace Json

variable {α : Type} {read : Json → Option α} {write : α → Json}

theorem word32?_ofWord32 (value : UInt32) : word32? (ofWord32 value) = some value := by
  rw [word32?, ofWord32, word?_ofNat value.toNat_lt, Option.map_some, UInt32.ofNat_toNat]

theorem word64?_ofWord64 (value : UInt64) : word64? (ofWord64 value) = some value := by
  rw [word64?, ofWord64, word?_ofNat value.toNat_lt, Option.map_some, UInt64.ofNat_toNat]

theorem texts?_ofTexts (values : List String) : texts? (ofTexts values) = some values :=
  list?_map _ _ values fun _ _ => rfl

theorem dictionary?_ofDictionary (back : ∀ value, read (write value) = some value) (dictionary : Dictionary α) :
    dictionary? read (ofDictionary write dictionary) = some dictionary := by
  rw [dictionary?, ofDictionary, map?_map write read dictionary.entries fun entry _ => back entry.2,
    Option.map_some, Dictionary.ofList_entries]

end Json

namespace Config

theorem Backend.ofName?_name (backend : Backend) : ofName? backend.name = some backend := by cases backend <;> rfl

namespace FamilySettings

/-- Whether all paths of a family are texts, so that it can be written down. -/
def isPrintable (settings : FamilySettings) : Bool :=
  settings.proofRoot.all (·.isText) && settings.gatewayRoot.all (·.isText) && settings.sessionRoot.all (·.isText) &&
    settings.snapshot.all (·.isText)

theorem ofJson?_toJson {settings : FamilySettings} (printable : settings.isPrintable = true) :
    ofJson? settings.toJson = some settings := by
  simp only [isPrintable, Bool.and_eq_true, Option.all_eq_true] at printable
  obtain ⟨⟨⟨proof, gateway⟩, session⟩, snapshot⟩ := printable
  have path {value : Option Path} (isText : ∀ path ∈ value, path.isText = true) :
      Json.nullable? Json.path? (.ofOption .ofPath value) = some value :=
    Json.nullable?_ofOption (fun _ => rfl) fun path found => Json.path?_ofPath (isText path found)
  have actionPrefix : Json.nullable? Json.text? (.ofOption .text settings.actionPrefix) =
      some settings.actionPrefix :=
    Json.nullable?_ofOption (fun _ => rfl) fun _ _ => rfl
  have classes : Json.nullable? Json.texts? (.ofOption .ofTexts settings.authClasses) = some settings.authClasses :=
    Json.nullable?_ofOption (fun _ => rfl) fun texts _ => Json.texts?_ofTexts texts
  simp [ofJson?, toJson, Json.fields?, fieldNames, Json.countName, Json.Fields.defaulted?, Json.Fields.find?,
    Json.text?, Json.texts?_ofTexts, Json.ofTextOption, actionPrefix, classes, path proof, path gateway, path session,
    path snapshot]

end FamilySettings

theorem LedgerSettings.ofJson?_toJson {settings : LedgerSettings} (isText : settings.path.isText = true) :
    ofJson? settings.toJson = some settings := by
  simp [ofJson?, toJson, Json.fields?, Json.countName, Json.Fields.defaulted?, Json.Fields.find?, Json.name?,
    Backend.ofName?_name, Json.path?_ofPath isText]

theorem LockSettings.ofJson?_toJson (settings : LockSettings) : ofJson? settings.toJson = some settings := by
  simp [ofJson?, toJson, Json.fields?, Json.countName, Json.Fields.defaulted?, Json.Fields.find?,
    Json.word64?_ofWord64, Json.texts?_ofTexts]

theorem GatewaySettings.ofJson?_toJson (settings : GatewaySettings) : ofJson? settings.toJson = some settings := by
  have token : Json.nullable? Json.text? (.ofOption .text settings.token) = some settings.token :=
    Json.nullable?_ofOption (fun _ => rfl) fun _ _ => rfl
  simp [ofJson?, toJson, Json.fields?, fieldNames, Json.countName, Json.Fields.defaulted?, Json.Fields.find?,
    Json.text?, Json.ofTextOption, token, Json.word64?_ofWord64, Json.word32?_ofWord32, Json.texts?_ofTexts]

theorem CatalogSettings.ofJson?_toJson (settings : CatalogSettings) : ofJson? settings.toJson = some settings := by
  have back (text : String) : Json.text? (.text text) = some text := rfl
  have targets := Json.dictionary?_ofDictionary back settings.actions
  have allowances := Json.dictionary?_ofDictionary Json.texts?_ofTexts settings.projects
  simp [ofJson?, toJson, Json.fields?, Json.countName, Json.Fields.defaulted?, Json.Fields.find?, targets, allowances]

namespace Settings

/-- Whether settings can be written down: their paths have to be texts. -/
def isPrintable (settings : Settings) : Bool := settings.ledger.path.isText && settings.families.all (·.isPrintable)

theorem familiesOfJson?_families {families : List FamilySettings}
    (printable : families.all (·.isPrintable) = true) :
    familiesOfJson? (.object [("families", .list (families.map FamilySettings.toJson))]) = some families := by
  have each := Json.list?_map FamilySettings.toJson FamilySettings.ofJson? families fun family among =>
    FamilySettings.ofJson?_toJson (List.all_eq_true.mp printable family among)
  simp [familiesOfJson?, Json.fields?, Json.countName, Json.Fields.defaulted?, Json.Fields.find?, each]

/-- Each section is found under its own name. -/
theorem ofJson?_toJson {settings : Settings} (printable : settings.isPrintable = true) :
    ofJson? settings.toJson = some settings := by
  obtain ⟨ledger, families⟩ := Bool.and_eq_true_iff.mp printable
  simp [ofJson?, toJson, Json.fields?, Json.countName, Json.Fields.defaulted?, Json.Fields.find?,
    LedgerSettings.ofJson?_toJson ledger, LockSettings.ofJson?_toJson, GatewaySettings.ofJson?_toJson,
    CatalogSettings.ofJson?_toJson, familiesOfJson?_families families]

end Settings

end Config

end SingleFlight
