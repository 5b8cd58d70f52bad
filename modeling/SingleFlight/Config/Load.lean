import SingleFlight.Config.Format
import SingleFlight.Files.Tree

/-!
Loading settings: from a file, with a few entries overridden by the environment, and checked.
-/

namespace SingleFlight.Config

open Text

/-- What the environment says, by the names of its variables. It need not be UTF-8. -/
abbrev Environment := Dictionary OsText

namespace Settings

def configVariable : String := "OPSGATE_CONFIG"

def urlVariable : String := "OPSGATE_GATEWAY_URL"

def tokenVariable : String := "OPSGATE_GATEWAY_TOKEN"

def ledgerVariable : String := "OPSGATE_LEDGER_PATH"

/-- Lets the environment have its way; a variable that holds nothing but blanks says nothing, nor does
one that is not UTF-8. -/
def withOverrides (environment : Environment) (settings : Settings) : Settings :=
  let say (name : String) : Option String := filled ((environment.find? name).bind OsText.text?)
  { settings with
    gateway := { settings.gateway with
      baseUrl := (say urlVariable).getD settings.gateway.baseUrl
      token := (say tokenVariable).or settings.gateway.token }
    ledger := { settings.ledger with path := ((say ledgerVariable).map Path.ofText).getD settings.ledger.path } }

/-- The first family whose name is blank or was given to an earlier one. -/
def checkFamilies (seen : List String) : List FamilySettings → Except Problem Unit
  | [] => .ok ()
  | family :: rest =>
    if isBlankText family.name then .error .blankFamilyName
    else if seen.contains family.name then .error (.repeatedFamily family.name)
    else checkFamilies (family.name :: seen) rest

/-- Finds the first thing that is wrong with settings. -/
def check (settings : Settings) : Except Problem Unit :=
  if isBlankText settings.gateway.baseUrl then .error .blankBaseUrl
  else if settings.gateway.normalTimeoutSeconds = 0 then .error .zeroNormalTimeout
  else if settings.locks.staleAfterSeconds = 0 then .error .zeroStaleAfter
  else match settings.catalog.catalog.uncatalogued with
    | (project, action) :: _ => .error (.uncataloguedAction project action)
    | [] => checkFamilies [] settings.families

def read (text : String) : Except Problem Settings :=
  match ofText? text with
  | some settings => .ok settings
  | none => .error .malformed

def readFile (tree : Files.Tree) (path : Path) : Except Problem Settings :=
  match tree.read path with
  | .error failure => .error (.unreadableFile path.shown failure)
  | .ok content =>
    match Utf8.strict? content with
    | none => .error (.unreadableFile path.shown .notText)
    | some chars =>
      match ofText? (String.ofList chars) with
      | some settings => .ok settings
      | none => .error (.malformedFile path.shown)

/-- The settings in the file that is named, or else in the one that the environment names, or else the
standard ones; with the overrides of the environment, and checked. -/
def load (tree : Files.Tree) (environment : Environment) (path : Option Path) : Except Problem Settings := do
  let settings ← match path.or ((environment.find? configVariable).map Path.mk) with
    | some path => readFile tree path
    | none => .ok standard
  let overridden := settings.withOverrides environment
  overridden.check
  return overridden

end Settings

end SingleFlight.Config
