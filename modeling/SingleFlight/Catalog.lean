import SingleFlight.Dictionary
import SingleFlight.Fault
import SingleFlight.Text.Blank

/-!
The catalog of actions: what each action runs at the gateway, and which projects may run it. What is
not listed is refused.
-/

namespace SingleFlight

open Text

/-- An action and the name under which the gateway runs it. -/
structure CatalogEntry where
  action : Action
  target : String
  deriving DecidableEq

structure Catalog where
  targets : Dictionary String
  allowed : Dictionary NameSet

namespace Catalog

def empty : Catalog := ⟨Dictionary.empty, Dictionary.empty⟩

/-- Lists an action. Without a target it runs under its own name. -/
def withAction (catalog : Catalog) (action : Action) (target : String) : Catalog :=
  { catalog with targets := catalog.targets.insert action (if isBlankText target then action else target) }

def allowedFor (catalog : Catalog) (project : Project) : NameSet :=
  (catalog.allowed.find? project).getD Dictionary.empty

/-- Allows a project further actions, listed or not. -/
def withProject (catalog : Catalog) (project : Project) (actions : List Action) : Catalog :=
  { catalog with
    allowed := catalog.allowed.insert project
      (actions.foldl (fun names action => names.insert action ()) (catalog.allowedFor project)) }

def isAllowed (catalog : Catalog) (project : Project) (action : Action) : Bool :=
  catalog.targets.contains action && (catalog.allowedFor project).contains action

def resolve (catalog : Catalog) (project : Project) (action : Action) : Except Fault CatalogEntry :=
  match catalog.targets.find? action with
  | none => .error (.unknownAction action)
  | some target =>
    if catalog.isAllowed project action then .ok ⟨action, target⟩ else .error (.actionNotAllowed action project)

/-- What projects are allowed although the catalog does not list it. -/
def uncatalogued (catalog : Catalog) : List (Project × Action) :=
  catalog.allowed.entries.flatMap fun entry =>
    ((NameSet.toList entry.2).filter (fun action => !catalog.targets.contains action)).map (entry.1, ·)

end Catalog

end SingleFlight
