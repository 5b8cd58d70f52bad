import SingleFlight.Config.Settings
import SingleFlight.Json.Reader

/-!
The JSON form of settings. Every section and every entry of a section may be left out.
-/

namespace SingleFlight

namespace Json

def texts? : Json → Option (List String) := list? text?

def word32? (json : Json) : Option UInt32 := (json.word? 32).map UInt32.ofNat

def word64? (json : Json) : Option UInt64 := (json.word? 64).map UInt64.ofNat

def ofWord32 (value : UInt32) : Json := .ofNat value.toNat

def ofWord64 (value : UInt64) : Json := .ofNat value.toNat

/-- A dictionary; the last of several entries of a name counts. -/
def dictionary? {α : Type} (read : Json → Option α) (json : Json) : Option (Dictionary α) :=
  (json.map? read).map Dictionary.ofList

def ofDictionary {α : Type} (write : α → Json) (dictionary : Dictionary α) : Json :=
  .object (dictionary.entries.map fun (name, value) => (name, write value))

end Json

namespace Config

namespace Backend

def name : Backend → String
  | files => "files"
  | sqlite => "sqlite"

def ofName? (text : String) : Option Backend :=
  if text = "files" then some files else if text = "sqlite" then some sqlite else none

end Backend

namespace LedgerSettings

def toJson (settings : LedgerSettings) : Json :=
  .object [("backend", .text settings.backend.name), ("path", .ofPath settings.path)]

def ofJson? (json : Json) : Option LedgerSettings := do
  let fields ← json.fields? ["backend", "path"]
  return {
    backend := ← fields.defaulted? "backend" standard.backend fun json => json.name?.bind Backend.ofName?
    path := ← fields.defaulted? "path" standard.path Json.path? }

end LedgerSettings

namespace LockSettings

def toJson (settings : LockSettings) : Json :=
  .object [("stale_after_secs", .ofWord64 settings.staleAfterSeconds),
    ("exempt_actions", .ofTexts settings.exemptActions)]

def ofJson? (json : Json) : Option LockSettings := do
  let fields ← json.fields? ["stale_after_secs", "exempt_actions"]
  return {
    staleAfterSeconds := ← fields.defaulted? "stale_after_secs" standard.staleAfterSeconds Json.word64?
    exemptActions := ← fields.defaulted? "exempt_actions" standard.exemptActions Json.texts? }

end LockSettings

namespace GatewaySettings

def toJson (settings : GatewaySettings) : Json :=
  .object [("base_url", .text settings.baseUrl), ("token", .ofTextOption settings.token),
    ("normal_timeout_secs", .ofWord64 settings.normalTimeoutSeconds),
    ("long_running_timeout_secs", .ofWord64 settings.longRunningTimeoutSeconds),
    ("long_running_actions", .ofTexts settings.longRunningActions),
    ("health_timeout_secs", .ofWord64 settings.healthTimeoutSeconds),
    ("health_retries", .ofWord32 settings.healthRetries), ("health_backoff_ms", .ofWord64 settings.healthBackoff)]

def fieldNames : List String :=
  ["base_url", "token", "normal_timeout_secs", "long_running_timeout_secs", "long_running_actions",
    "health_timeout_secs", "health_retries", "health_backoff_ms"]

def ofJson? (json : Json) : Option GatewaySettings := do
  let fields ← json.fields? fieldNames
  return {
    baseUrl := ← fields.defaulted? "base_url" standard.baseUrl Json.text?
    token := ← fields.defaulted? "token" standard.token (Json.nullable? Json.text?)
    normalTimeoutSeconds := ← fields.defaulted? "normal_timeout_secs" standard.normalTimeoutSeconds Json.word64?
    longRunningTimeoutSeconds :=
      ← fields.defaulted? "long_running_timeout_secs" standard.longRunningTimeoutSeconds Json.word64?
    longRunningActions := ← fields.defaulted? "long_running_actions" standard.longRunningActions Json.texts?
    healthTimeoutSeconds := ← fields.defaulted? "health_timeout_secs" standard.healthTimeoutSeconds Json.word64?
    healthRetries := ← fields.defaulted? "health_retries" standard.healthRetries Json.word32?
    healthBackoff := ← fields.defaulted? "health_backoff_ms" standard.healthBackoff Json.word64? }

end GatewaySettings

namespace CatalogSettings

def toJson (settings : CatalogSettings) : Json :=
  .object [("actions", .ofDictionary .text settings.actions), ("projects", .ofDictionary .ofTexts settings.projects)]

def ofJson? (json : Json) : Option CatalogSettings := do
  let fields ← json.fields? ["actions", "projects"]
  return {
    actions := ← fields.defaulted? "actions" standard.actions (Json.dictionary? Json.text?)
    projects := ← fields.defaulted? "projects" standard.projects (Json.dictionary? Json.texts?) }

end CatalogSettings

namespace FamilySettings

def toJson (settings : FamilySettings) : Json :=
  .object [("name", .text settings.name), ("actions", .ofTexts settings.actions),
    ("action_prefix", .ofTextOption settings.actionPrefix), ("proof_root", .ofOption .ofPath settings.proofRoot),
    ("gateway_artifact_root", .ofOption .ofPath settings.gatewayRoot),
    ("session_registry_root", .ofOption .ofPath settings.sessionRoot),
    ("auth_error_classes", .ofOption .ofTexts settings.authClasses),
    ("snapshot_path", .ofOption .ofPath settings.snapshot)]

def fieldNames : List String :=
  ["name", "actions", "action_prefix", "proof_root", "gateway_artifact_root", "session_registry_root",
    "auth_error_classes", "snapshot_path"]

def ofJson? (json : Json) : Option FamilySettings := do
  let fields ← json.fields? fieldNames
  return {
    name := ← fields.defaulted? "name" standard.name Json.text?
    actions := ← fields.defaulted? "actions" standard.actions Json.texts?
    actionPrefix := ← fields.defaulted? "action_prefix" standard.actionPrefix (Json.nullable? Json.text?)
    proofRoot := ← fields.defaulted? "proof_root" standard.proofRoot (Json.nullable? Json.path?)
    gatewayRoot := ← fields.defaulted? "gateway_artifact_root" standard.gatewayRoot (Json.nullable? Json.path?)
    sessionRoot := ← fields.defaulted? "session_registry_root" standard.sessionRoot (Json.nullable? Json.path?)
    authClasses := ← fields.defaulted? "auth_error_classes" standard.authClasses (Json.nullable? Json.texts?)
    snapshot := ← fields.defaulted? "snapshot_path" standard.snapshot (Json.nullable? Json.path?) }

end FamilySettings

namespace Settings

def familiesOfJson? (json : Json) : Option (List FamilySettings) := do
  (← json.fields? ["families"]).defaulted? "families" [] (Json.list? FamilySettings.ofJson?)

def toJson (settings : Settings) : Json :=
  .object [("ledger", settings.ledger.toJson), ("locks", settings.locks.toJson), ("gateway", settings.gateway.toJson),
    ("catalog", settings.catalog.toJson),
    ("resolver", .object [("families", .list (settings.families.map FamilySettings.toJson))])]

def ofJson? (json : Json) : Option Settings := do
  let fields ← json.fields? ["ledger", "locks", "gateway", "catalog", "resolver"]
  return {
    ledger := ← fields.defaulted? "ledger" standard.ledger LedgerSettings.ofJson?
    locks := ← fields.defaulted? "locks" standard.locks LockSettings.ofJson?
    gateway := ← fields.defaulted? "gateway" standard.gateway GatewaySettings.ofJson?
    catalog := ← fields.defaulted? "catalog" standard.catalog CatalogSettings.ofJson?
    families := ← fields.defaulted? "resolver" standard.families familiesOfJson? }

def ofText? (text : String) : Option Settings := (Json.ofText? text).bind ofJson?

end Settings

end Config

end SingleFlight
