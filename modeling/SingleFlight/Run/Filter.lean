import SingleFlight.Dictionary
import SingleFlight.Run.Record

/-!
Which runs are asked for: those of one project, of a family of actions, or both.
-/

namespace SingleFlight

open Text

/-- A family of actions, given by how their names start or by the names themselves. -/
inductive ActionFamily where
  | named (beginning : String)
  | members (actions : NameSet)
  deriving DecidableEq

def ActionFamily.contains (family : ActionFamily) (action : Action) : Bool :=
  match family with
  | .named beginning => startsWith action beginning
  | .members actions => actions.contains action

structure RunFilter where
  project : Option Project
  family : Option ActionFamily
  deriving DecidableEq

namespace RunFilter

def everything : RunFilter := ⟨none, none⟩

def ofProject (project : Project) : RunFilter := ⟨some project, none⟩

def ofFamily (family : ActionFamily) : RunFilter := ⟨none, some family⟩

def keeps (filter : RunFilter) (record : RunRecord) : Bool :=
  filter.project.all (· == record.project) && filter.family.all (·.contains record.action)

end RunFilter

end SingleFlight
