import SingleFlight.Proofs.Joining

/-!
Paths that lead nowhere. Nothing is at the end of such a path, nor at the end of any path that goes on from
there.
-/

namespace SingleFlight.Files

open Text OsText

namespace Tree

variable {tree : Tree} {links : Nat} {location dest : Location} {names : List OsText} {path root : Path}

/-- Whether a walk ends where nothing is, or cannot be walked to its end because nothing is on the way. -/
def LeadsNowhere (tree : Tree) (links : Nat) (location : Location) (names : List OsText) : Prop :=
  tree.walk links location names = .error .missing ∨
    ∃ dest, tree.walk links location names = .ok dest ∧ tree.find? dest = none

/-- From nowhere no walk goes on. -/
theorem LeadsNowhere.append (nowhere : LeadsNowhere tree links location names) (name : OsText)
    (more : List OsText) :
    tree.walk links location (names ++ name :: more) = .error .missing := by
  obtain ⟨left, walks⟩ := walk_append tree links location names
  rw [walks]
  rcases nowhere with missing | ⟨dest, walked, nothing⟩
  · rw [missing]
    rfl
  · rw [walked]
    exact walk_missing nothing

/-- A walk that asks for a directory at its end, and leads nowhere, leads nowhere without asking. -/
theorem LeadsNowhere.of_dot (nowhere : LeadsNowhere tree links location (names ++ [dot])) :
    LeadsNowhere tree links location names := by
  obtain ⟨left, walks⟩ := walk_append tree links location names
  unfold LeadsNowhere at nowhere ⊢
  rw [walks] at nowhere
  cases walked : tree.walk links location names with
  | error failure =>
    rw [walked] at nowhere
    rcases nowhere with missing | ⟨_, never, _⟩
    · exact .inl missing
    · cases never
  | ok outer =>
    rw [walked] at nowhere
    refine .inr ⟨outer, rfl, ?_⟩
    cases held : tree.find? outer with
    | none => rfl
    | some node =>
      change tree.walk left outer [dot] = _ ∨ ∃ dest, tree.walk left outer [dot] = _ ∧ _ at nowhere
      rw [walk_single_dot, held] at nowhere
      dsimp only at nowhere
      rcases nowhere with never | ⟨dest, same, nothing⟩
      · split at never
        next => cases never
        next => cases never
      · split at same
        next =>
          cases same
          rw [held] at nothing
          cases nothing
        next => cases same

theorem open?_missing_iff (spelled : steps? path = .ok names) :
    tree.open? path = .error .missing ↔ LeadsNowhere tree linkLimit (tree.origin path) names := by
  unfold open? LeadsNowhere
  rw [locate_of_steps spelled]
  cases walked : tree.walk linkLimit (tree.origin path) names with
  | error failure => simp [bind, Except.bind]
  | ok dest =>
    simp only [bind, Except.bind]
    cases held : tree.find? dest with
    | none => simp [held]
    | some node => simp [held]

/-- Where a path leads nowhere, so does the path of a name in it. -/
theorem open?_join (absent : tree.open? root = .error .missing) {rootNames : List OsText}
    (spelled : steps? root = .ok rootNames)
    {name : OsText} (plain : IsPlain name) (fits : Fits root name) :
    tree.open? (root.join name) = .error .missing := by
  rw [open?_missing_iff spelled, (steps?_ok spelled).2.2.2, steps_eq] at absent
  rw [open?_missing_iff ((steps?_join plain).mpr ⟨fits, rfl⟩), origin_join tree root plain]
  have nowhere : LeadsNowhere tree linkLimit (tree.origin root) (namesOf root.text) := by
    split at absent
    next => exact absent.of_dot
    next => exact absent
  exact .inl (nowhere.append name [])

theorem open?_of_vacancy (vacant : tree.vacancy path = .ok location) : tree.open? path = .error .missing := by
  obtain ⟨entry, nothing⟩ := vacancy_iff.mp vacant
  have located := locate_of_locateEntry entry (by simp [nothing])
  unfold open?
  rw [located]
  simp [bind, Except.bind, nothing]

theorem open?_of_locateEntry (spelled : steps? path = .ok names) (missing : tree.locateEntry path = .error .missing) :
    tree.open? path = .error .missing := by
  rw [open?_missing_iff spelled]
  rw [locateEntry_eq, spelled] at missing
  have before : LeadsNowhere tree linkLimit (tree.origin path) names.dropLast := by
    simp only [bind, Except.bind] at missing
    split at missing
    next failure walked =>
      cases missing
      exact .inl walked
    next outer walked =>
      split at missing
      next nothing => exact .inr ⟨outer, walked, nothing⟩
      next =>
        split at missing
        next => cases missing
        next =>
          split at missing
          next => cases missing
          next =>
            split at missing
            next => cases missing
            next =>
              split at missing
              next => cases missing
              next => cases missing
  rcases List.eq_nil_or_concat names with empty | ⟨init, name, shape⟩
  · rw [empty] at before ⊢
    exact before
  · rw [List.concat_eq_append] at shape
    rw [shape, List.dropLast_concat] at before
    rw [shape]
    exact .inl (before.append name [])

end Tree

end SingleFlight.Files
