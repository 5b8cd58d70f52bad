import SingleFlight.Config.Settings

/-!
What a catalog lists that is built from settings: each action that is configured, under its target or
under its own name, and for each project the actions that it is configured with, and nothing else.
-/

namespace SingleFlight

open Text

namespace Catalog

/-- The name under which the gateway runs an action that is configured with a target. -/
def targetOf (action : Action) (target : String) : String := if isBlankText target then action else target

theorem targets_foldl_withAction (entries : List (String × String)) (catalog : Catalog) :
    (entries.foldl (fun catalog entry => catalog.withAction entry.1 entry.2) catalog).targets =
      entries.foldl (fun targets entry => targets.insert entry.1 (targetOf entry.1 entry.2)) catalog.targets := by
  induction entries generalizing catalog with
  | nil => rfl
  | cons first rest ih => exact ih (catalog.withAction first.1 first.2)

theorem allowed_foldl_withAction (entries : List (String × String)) (catalog : Catalog) :
    (entries.foldl (fun catalog entry => catalog.withAction entry.1 entry.2) catalog).allowed = catalog.allowed := by
  induction entries generalizing catalog with
  | nil => rfl
  | cons first rest ih => exact ih (catalog.withAction first.1 first.2)

theorem targets_foldl_withProject (entries : List (Project × List Action)) (catalog : Catalog) :
    (entries.foldl (fun catalog entry => catalog.withProject entry.1 entry.2) catalog).targets = catalog.targets := by
  induction entries generalizing catalog with
  | nil => rfl
  | cons first rest ih => exact ih (catalog.withProject first.1 first.2)

theorem contains_withProject (catalog : Catalog) (project other : Project) (actions : List Action) (action : Action) :
    ((catalog.withProject other actions).allowedFor project).contains action = true ↔
      (project = other ∧ action ∈ actions) ∨ (catalog.allowedFor project).contains action = true := by
  simp only [withProject, allowedFor, Dictionary.find?_insert]
  by_cases same : project = other
  · subst same
    simp only [if_true, Option.getD_some, true_and]
    exact NameSet.contains_foldl_insert actions _ action
  · simp [same]

/-- What a project is allowed in the end is what one of its entries names, or what it was allowed before. -/
theorem contains_foldl_withProject (entries : List (Project × List Action)) (catalog : Catalog) (project : Project)
    (action : Action) :
    ((entries.foldl (fun catalog entry => catalog.withProject entry.1 entry.2) catalog).allowedFor project).contains
        action = true ↔
      (∃ actions, (project, actions) ∈ entries ∧ action ∈ actions) ∨
        (catalog.allowedFor project).contains action = true := by
  induction entries generalizing catalog with
  | nil => simp
  | cons first rest ih =>
    rw [List.foldl_cons, ih, contains_withProject]
    constructor
    · intro given
      rcases given with ⟨actions, entryIn, actionIn⟩ | ⟨rfl, actionIn⟩ | before
      · exact .inl ⟨actions, List.mem_cons_of_mem _ entryIn, actionIn⟩
      · exact .inl ⟨first.2, List.mem_cons_self, actionIn⟩
      · exact .inr before
    · intro given
      rcases given with ⟨actions, entryIn, actionIn⟩ | before
      · rcases List.mem_cons.mp entryIn with same | inRest
        · subst same
          exact .inr (.inl ⟨rfl, actionIn⟩)
        · exact .inl ⟨actions, inRest, actionIn⟩
      · exact .inr (.inr before)

theorem resolve_eq_ok_iff {catalog : Catalog} {project : Project} {action : Action} {entry : CatalogEntry} :
    catalog.resolve project action = .ok entry ↔
      catalog.targets.find? action = some entry.target ∧ entry.action = action ∧
        (catalog.allowedFor project).contains action = true := by
  unfold resolve isAllowed Dictionary.contains
  cases found : catalog.targets.find? action with
  | none => simp
  | some target =>
    obtain ⟨entryAction, entryTarget⟩ := entry
    simp only [Option.isSome_some, Bool.true_and, Option.some.injEq]
    split
    next allowed =>
      simp only [Except.ok.injEq, CatalogEntry.mk.injEq]
      constructor
      · intro same
        exact ⟨same.2, same.1.symm, allowed⟩
      · intro given
        exact ⟨given.2.1.symm, given.1⟩
    next notAllowed => simp [notAllowed]

theorem kind_of_resolve {catalog : Catalog} {project : Project} {action : Action} {fault : Fault}
    (refused : catalog.resolve project action = .error fault) : fault.kind = .notAllowlisted := by
  unfold resolve at refused
  split at refused
  · cases refused
    rfl
  · split at refused
    · cases refused
    · cases refused
      rfl

/-- Nothing is left uncatalogued exactly if whatever a project is allowed is listed. -/
theorem uncatalogued_eq_nil_iff (catalog : Catalog) :
    catalog.uncatalogued = [] ↔ ∀ project action, (catalog.allowedFor project).contains action = true →
      catalog.targets.contains action = true := by
  simp only [uncatalogued, List.flatMap_eq_nil_iff, List.map_eq_nil_iff, List.filter_eq_nil_iff,
    NameSet.mem_toList, Bool.not_eq_true', Bool.not_eq_false]
  constructor
  · intro listed project action allowed
    cases found : catalog.allowed.find? project with
    | none => simp [allowedFor, found, Dictionary.contains] at allowed
    | some names =>
      rw [allowedFor, found] at allowed
      exact listed (project, names) (Dictionary.mem_entries.mpr found) action allowed
  · intro listed entry entryIn action allowed
    apply listed entry.1 action
    rw [allowedFor, Dictionary.mem_entries.mp entryIn]
    exact allowed

end Catalog

namespace Config.CatalogSettings

variable (settings : CatalogSettings)

theorem find?_targets (action : Action) :
    settings.catalog.targets.find? action = (settings.actions.find? action).map (Catalog.targetOf action) := by
  rw [catalog, Catalog.targets_foldl_withProject, Catalog.targets_foldl_withAction, Dictionary.find?_foldl_insert,
    Dictionary.find?_reverse (Dictionary.nodup_names _), Catalog.empty, Dictionary.find?_empty, Option.or_none,
    Dictionary.find?, Dictionary.lookup]
  cases found : settings.actions.entries.find? (·.1 == action) with
  | none => rfl
  | some entry =>
    have same : entry.1 = action := by simpa using List.find?_some found
    rw [Option.map_some, Option.map_some, Option.map_some, same]

theorem contains_targets (action : Action) :
    settings.catalog.targets.contains action = settings.actions.contains action := by
  rw [Dictionary.contains, find?_targets, Option.isSome_map, Dictionary.contains]

theorem contains_allowedFor (project : Project) (action : Action) :
    (settings.catalog.allowedFor project).contains action = true ↔
      ∃ actions, settings.projects.find? project = some actions ∧ action ∈ actions := by
  have before : (settings.actions.entries.foldl (fun catalog entry => catalog.withAction entry.1 entry.2)
      Catalog.empty).allowedFor project = Dictionary.empty := by
    rw [Catalog.allowedFor, Catalog.allowed_foldl_withAction]
    rfl
  rw [catalog, Catalog.contains_foldl_withProject, before]
  simp [Dictionary.mem_entries, Dictionary.contains]

end Config.CatalogSettings

end SingleFlight
