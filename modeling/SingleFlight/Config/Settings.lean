import SingleFlight.Catalog
import SingleFlight.Gateway.Client
import SingleFlight.Lock.Policy
import SingleFlight.Status.Family

/-!
Settings: everything that can be configured, each with a default, and the policies that follow from it.
-/

namespace SingleFlight.Config

open Gateway Status

/-- How the ledger is kept. -/
inductive Backend where
  | files
  | sqlite
  deriving DecidableEq

structure LedgerSettings where
  backend : Backend
  /-- The directory of files, or the file of the database. -/
  path : Path
  deriving DecidableEq

structure LockSettings where
  staleAfterSeconds : UInt64
  exemptActions : List Action
  deriving DecidableEq

structure GatewaySettings where
  baseUrl : String
  token : Option String
  normalTimeoutSeconds : UInt64
  /-- Zero leaves long-running actions without a bound. -/
  longRunningTimeoutSeconds : UInt64
  longRunningActions : List Action
  healthTimeoutSeconds : UInt64
  healthRetries : UInt32
  healthBackoff : Milliseconds
  deriving DecidableEq

structure CatalogSettings where
  actions : Dictionary String
  projects : Dictionary (List Action)

structure FamilySettings where
  name : String
  actions : List Action
  actionPrefix : Option String
  proofRoot : Option Path
  gatewayRoot : Option Path
  sessionRoot : Option Path
  authClasses : Option (List String)
  snapshot : Option Path
  deriving DecidableEq

structure Settings where
  ledger : LedgerSettings
  locks : LockSettings
  gateway : GatewaySettings
  catalog : CatalogSettings
  families : List FamilySettings

namespace LedgerSettings

def standard : LedgerSettings := ⟨.files, .ofText "runs"⟩

end LedgerSettings

namespace LockSettings

def standard : LockSettings := ⟨UInt64.ofNat LockPolicy.defaultStaleAfterSeconds, LockPolicy.defaultExempt⟩

def policy (settings : LockSettings) : LockPolicy :=
  ⟨NameSet.ofList settings.exemptActions, settings.staleAfterSeconds.toNat * 1000⟩

end LockSettings

namespace GatewaySettings

def standard : GatewaySettings where
  baseUrl := "http://127.0.0.1:8787"
  token := none
  normalTimeoutSeconds := UInt64.ofNat TimeoutPolicy.defaultNormalSeconds
  longRunningTimeoutSeconds := UInt64.ofNat TimeoutPolicy.defaultLongRunningSeconds
  longRunningActions := TimeoutPolicy.defaultLongRunningActions
  healthTimeoutSeconds := UInt64.ofNat HealthPolicy.defaultTimeoutSeconds
  healthRetries := HealthPolicy.defaultRetries
  healthBackoff := UInt64.ofNat HealthPolicy.defaultBackoff

def timeouts (settings : GatewaySettings) : TimeoutPolicy where
  normal := settings.normalTimeoutSeconds.toNat * 1000
  longRunning :=
    if settings.longRunningTimeoutSeconds = 0 then none else some (settings.longRunningTimeoutSeconds.toNat * 1000)
  longRunningActions := NameSet.ofList settings.longRunningActions

def health (settings : GatewaySettings) : HealthPolicy :=
  ⟨settings.healthTimeoutSeconds.toNat * 1000, settings.healthRetries,
    settings.healthBackoff.toNat * HealthPolicy.nanosecondsPerMillisecond⟩

def client (settings : GatewaySettings) : Client :=
  Client.of settings.baseUrl settings.token settings.timeouts settings.health

end GatewaySettings

namespace CatalogSettings

def standard : CatalogSettings := ⟨Dictionary.empty, Dictionary.empty⟩

def catalog (settings : CatalogSettings) : Catalog :=
  settings.projects.entries.foldl (fun catalog entry => catalog.withProject entry.1 entry.2)
    (settings.actions.entries.foldl (fun catalog entry => catalog.withAction entry.1 entry.2) Catalog.empty)

end CatalogSettings

namespace FamilySettings

def standard : FamilySettings := ⟨"", [], none, none, none, none, none, none⟩

/-- Actions that are listed make the family; without any, it holds the actions whose names start with
the prefix, or with the name of the family where no prefix is given. -/
def members (settings : FamilySettings) : ActionFamily :=
  if settings.actions.isEmpty then .named (settings.actionPrefix.getD settings.name)
  else .members (NameSet.ofList settings.actions)

def family (settings : FamilySettings) : Family where
  name := settings.name
  actions := settings.members
  proofRoot := settings.proofRoot
  gatewayRoot := settings.gatewayRoot
  sessionRoot := settings.sessionRoot
  authClasses := NameSet.ofList
    (match settings.authClasses with
      | some classes => classes.map normalClass
      | none => defaultAuthClasses)
  snapshot := settings.snapshot

end FamilySettings

namespace Settings

def standard : Settings :=
  ⟨LedgerSettings.standard, LockSettings.standard, GatewaySettings.standard, CatalogSettings.standard, []⟩

/-- The first family of a name. -/
def family? (settings : Settings) (name : String) : Option Family :=
  (settings.families.find? (·.name == name)).map FamilySettings.family

end Settings

end SingleFlight.Config
