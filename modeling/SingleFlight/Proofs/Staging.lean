import SingleFlight.Proofs.Directories

/-!
Files that are staged. A file that is written where nothing stands is in no one's way: paths lead where they led, and
once it is taken away the tree is what it was.
-/

namespace SingleFlight.Files.Tree

open Text

variable {tree opened : Tree} {path other destination : Path} {location staging : Location} {node : Node}

/-- What is taken away where no directory and no link stood, stood in no way. -/
theorem follows_erase (idle : ∀ held, tree.find? location = some held → held.isDirectory = false ∧ held.isLink = false) :
    Follows tree (tree.erase location) where
  here := rfl
  directories other held found isDirectory := by
    refine ⟨held, ?_, isDirectory⟩
    rw [find?_erase, if_neg]
    · exact found
    · rintro rfl
      rw [(idle held found).1] at isDirectory
      cases isDirectory
  links other target := by
    rw [find?_erase]
    split
    next same =>
      subst same
      constructor
      · rintro ⟨⟩
      · intro link
        have never := (idle _ link).2
        cases never
    next => exact Iff.rfl

/-- What is put somewhere comes in the place of what stood there. -/
theorem put_erase (tree : Tree) (location : Location) (node : Node) : (tree.erase location).put location node = tree.put location node := by
  apply eq_of_nodes
  · simp only [erase, put, others, List.filter_filter, Bool.and_self]
  · rfl

section Staged

variable (staged : opened.vacancy path = .ok staging) (content : List Byte)

include staged

theorem follows_staged : Follows opened (opened.put staging (.file content)) :=
  (grows_put (vacancy_iff.mp staged).2 rfl).follows

theorem follows_unstaged : Follows (opened.put staging (.file content)) opened := by
  have idle : ∀ held, (opened.put staging (.file content)).find? staging = some held →
      held.isDirectory = false ∧ held.isLink = false := by
    rw [find?_put, if_pos rfl]
    rintro held ⟨⟩
    exact ⟨rfl, rfl⟩
  have follows := follows_erase idle
  rwa [erase_put (vacancy_iff.mp staged).2] at follows

/-- Every other path names what it named. -/
theorem locateEntry_beside : (opened.put staging (.file content)).locateEntry other = .ok (some location) ↔
    opened.locateEntry other = .ok (some location) :=
  ⟨(follows_unstaged staged content).locateEntry, (follows_staged staged content).locateEntry⟩

theorem locateEntry_staged : (opened.put staging (.file content)).locateEntry path = .ok (some staging) :=
  (follows_staged staged content).locateEntry (vacancy_iff.mp staged).1

theorem locate_staged : (opened.put staging (.file content)).locate path = .ok staging := by
  apply locate_of_locateEntry (locateEntry_staged staged content)
  simp

theorem entry_staged : (opened.put staging (.file content)).entry path = .ok (staging, .file content) := by
  refine entry_iff.mpr ⟨locateEntry_staged staged content, ?_⟩
  rw [find?_put, if_pos rfl]

theorem perform_write : (opened.put staging (.file [])).perform (.write path content) = .ok (opened.put staging (.file content)) := by
  simp [perform, locate_staged staged, bind, Except.bind, put_put (vacancy_iff.mp staged).2]

theorem perform_sync : (opened.put staging (.file content)).perform (.sync path) = .ok (opened.put staging (.file content)) := by
  have there := open?_iff.mpr ⟨staging, locate_staged staged content, show _ = some (Node.file content) by simp⟩
  simp [perform, there, bind, Except.bind, pure, Except.pure]

theorem perform_unstage : (opened.put staging (.file content)).perform (.remove path) = .ok opened := by
  simp [perform, entry_staged staged, bind, Except.bind, Node.isDirectory, erase_put (vacancy_iff.mp staged).2]

omit content

theorem perform_createNew : opened.perform (.createNew path) = .ok (opened.put staging (.file [])) := by
  simp [perform, staged, bind, Except.bind, pure, Except.pure]

theorem perform_create : opened.perform (.create path) = .ok (opened.put staging (.file [])) := by
  obtain ⟨entry, vacant⟩ := vacancy_iff.mp staged
  have located : opened.locate path = .ok staging := locate_of_locateEntry entry (by simp [vacant])
  simp [perform, located, vacant, bind, Except.bind]

end Staged

section Rename

variable (staged : opened.vacancy path = .ok staging)

include staged

/-- A staged file is moved to any place where no directory stands. -/
theorem perform_rename (content : List Byte) (named : opened.locateEntry destination = .ok (some location))
    (noDirectory : ∀ held, opened.find? location = some held → held.isDirectory = false) :
    (opened.put staging (.file content)).perform (.rename path destination) = .ok (opened.put location (.file content)) := by
  have stillNamed := (locateEntry_beside staged content).mpr named
  have free : ((opened.put staging (.file content)).find? location).any (·.isDirectory) = false := by
    rw [find?_put]
    split
    next => rfl
    next =>
      cases held : opened.find? location with
      | none => rfl
      | some node => exact noDirectory node held
  simp [perform, entry_staged staged, stillNamed, free, bind, Except.bind, erase_put (vacancy_iff.mp staged).2, -find?_put]

/-- If it is not moved, the place that it was to be moved to is not named at all, or a directory stands there. -/
theorem rename_cases (content : List Byte) (destination : Path) :
    (∃ failure, (opened.put staging (.file content)).perform (.rename path destination) = .error failure) ∨
      ∃ location, opened.locateEntry destination = .ok (some location) ∧
        ∀ held, opened.find? location = some held → held.isDirectory = false := by
  have entry := entry_staged staged content
  cases named : (opened.put staging (.file content)).locateEntry destination with
  | error failure => exact .inl ⟨failure, by simp [perform, entry, named, bind, Except.bind]⟩
  | ok found =>
    cases found with
    | none => exact .inl ⟨.busy, by simp [perform, entry, named, bind, Except.bind]⟩
    | some location =>
      cases directory : ((opened.put staging (.file content)).find? location).any (·.isDirectory) with
      | true => exact .inl ⟨.isDirectory, by simp [perform, entry, named, directory, bind, Except.bind, -find?_put]⟩
      | false =>
        refine .inr ⟨location, (locateEntry_beside staged content).mp named, ?_⟩
        intro held there
        have kept := (grows_put (vacancy_iff.mp staged).2 (show Node.isLink (.file content) = false from rfl)).kept location held there
        rw [kept] at directory
        exact directory

end Rename

/-- Whether a path leads to the place that it names without leading through what stands there. -/
def IsDirect (tree : Tree) (path : Path) (location : Location) : Prop :=
  (tree.erase location).locateEntry path = .ok (some location)

/-- No path leads through a file, and none through a place where nothing stands. -/
theorem isDirect_of_noLink (named : tree.locateEntry path = .ok (some location))
    (noDirectory : ∀ held, tree.find? location = some held → held.isDirectory = false)
    (noLink : ∀ target, tree.find? location ≠ some (.link target)) : tree.IsDirect path location := by
  apply (follows_erase _).locateEntry named
  intro held there
  refine ⟨noDirectory held there, ?_⟩
  cases held with
  | link target => exact absurd there (noLink target)
  | file | database | directory => rfl

/-- Where nothing has been staged there is nothing to take away, unless a directory was made there. -/
theorem attempt_remove_staging (paved : Paved other tree opened)
    (free : ∀ location, opened.locateEntry path = .ok (some location) → tree.find? location = none) :
    opened.attempt (.remove path) = opened := by
  cases found : opened.entry path with
  | error other => simp [attempt, perform, found, bind, Except.bind]
  | ok held =>
    obtain ⟨location, node⟩ := held
    obtain ⟨entry, there⟩ := entry_iff.mp found
    rcases paved.find? location with same | ⟨_, made⟩
    · rw [free location entry, there] at same
      cases same
    · rw [made] at there
      cases there
      simp [attempt, perform, found, bind, Except.bind, Node.isDirectory]

end SingleFlight.Files.Tree
