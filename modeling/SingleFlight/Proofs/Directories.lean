import Mathlib.Data.List.TakeWhile
import SingleFlight.Proofs.Absence

/-!
Making directories. Whatever stands in a tree stays there; what is made are directories, on the way to the
path that is asked for; and once they are made, making them again changes nothing.
-/

namespace SingleFlight.Files

open Text OsText

namespace Tree

variable {tree after last : Tree} {path outer : Path} {location : Location}

/-- Whether a tree holds all that another one holds, and no link besides. -/
structure Grows (tree after : Tree) : Prop where
  here : after.here = tree.here
  kept : ∀ location node, tree.find? location = some node → after.find? location = some node
  links : ∀ location target, after.find? location = some (.link target) → tree.find? location = some (.link target)

theorem Grows.refl (tree : Tree) : Grows tree tree := ⟨rfl, fun _ _ => id, fun _ _ => id⟩

theorem Grows.trans (first : Grows tree after) (second : Grows after last) : Grows tree last where
  here := second.here.trans first.here
  kept location node found := second.kept location node (first.kept location node found)
  links location target link := first.links location target (second.links location target link)

theorem Grows.follows (grows : Grows tree after) : Follows tree after where
  here := grows.here
  directories location node found isDirectory := ⟨node, grows.kept location node found, isDirectory⟩
  links location target := ⟨grows.links location target, grows.kept location _⟩

theorem grows_put {node : Node} (vacant : tree.find? location = none) (noLink : node.isLink = false) :
    Grows tree (tree.put location node) where
  here := rfl
  kept other held found := by
    rw [find?_put, if_neg]
    · exact found
    · intro same
      subst same
      rw [vacant] at found
      cases found
  links other target link := by
    rw [find?_put] at link
    split at link
    next =>
      cases link
      cases noLink
    next => exact link

theorem Grows.open? {node : Node} (grows : Grows tree after) (opened : tree.open? path = .ok node) :
    after.open? path = .ok node := by
  rw [open?_iff] at opened ⊢
  obtain ⟨location, located, held⟩ := opened
  exact ⟨location, grows.follows.locate located, grows.kept location node held⟩

/-- A walk that something stands in the way of is stopped by it whatever else comes. -/
theorem Grows.walk_error {links : Nat} {names : List OsText} {failure : Failure} (grows : Grows tree after)
    (stopped : tree.walk links location names = .error failure) (there : failure ≠ .missing) :
    after.walk links location names = .error failure := by
  fun_induction Tree.walk tree links location names with
  | case1 => cases stopped
  | case2 =>
    cases stopped
    exact absurd rfl there
  | case3 links location name rest node found notDirectory =>
    cases stopped
    exact walk_notDirectory (grows.kept _ _ found) (by simpa using notDirectory)
  | case4 links location rest node found isDirectory ih =>
    rw [walk_dot (grows.kept _ _ found) (by simpa using isDirectory)]
    exact ih stopped
  | case5 links location rest node found isDirectory _ ih =>
    rw [walk_dots (grows.kept _ _ found) (by simpa using isDirectory)]
    exact ih stopped
  | case6 links location name rest node found isDirectory notDot notDots long =>
    cases stopped
    exact walk_nameTooLong (grows.kept _ _ found) (by simpa using isDirectory) notDot notDots long
  | case7 location name rest node found isDirectory notDot notDots short target link =>
    cases stopped
    exact walk_link_zero (grows.kept _ _ found) (by simpa using isDirectory) ⟨notDot, notDots, Nat.not_lt.mp short⟩
      (grows.kept _ _ link)
  | case8 location name rest node found isDirectory notDot notDots short target links link ih =>
    rw [walk_link (grows.kept _ _ found) (by simpa using isDirectory) ⟨notDot, notDots, Nat.not_lt.mp short⟩
      (grows.kept _ _ link)]
    exact ih stopped
  | case9 location name rest node found isDirectory notDot notDots short links notZero notSucc ih =>
    have noLink (target : OsText) : after.find? (name :: location) ≠ some (.link target) := by
      intro link
      have before := grows.links _ _ link
      rcases links with _ | links
      · exact notZero target before rfl
      · exact notSucc target links before rfl
    rw [walk_name (grows.kept _ _ found) (by simpa using isDirectory) ⟨notDot, notDots, Nat.not_lt.mp short⟩ noLink]
    exact ih stopped

theorem Grows.open?_error {failure : Failure} (grows : Grows tree after) (stopped : tree.open? path = .error failure)
    (there : failure ≠ .missing) : after.open? path = .error failure := by
  unfold Tree.open? at stopped ⊢
  rw [locate_eq] at stopped ⊢
  rw [origin_of_here path grows.here]
  cases spelled : steps? path with
  | error other =>
    rw [spelled] at stopped
    exact stopped
  | ok names =>
    rw [spelled] at stopped
    simp only [bind, Except.bind] at stopped ⊢
    cases walked : tree.walk linkLimit (tree.origin path) names with
    | error other =>
      rw [walked] at stopped
      cases stopped
      rw [grows.walk_error walked there]
    | ok dest =>
      rw [walked] at stopped
      dsimp only at stopped
      split at stopped
      next =>
        cases stopped
        exact absurd rfl there
      next => cases stopped

/-- What can be read stays as it is. -/
theorem Grows.read {content : List Byte} (grows : Grows tree after) (read : tree.read path = .ok content) :
    after.read path = .ok content := by
  obtain ⟨node, opened, read⟩ := bind_ok read
  unfold Tree.read
  rw [grows.open? opened]
  exact read

/-- One path leads through another one if that is its parent, or if its parent leads through it. -/
inductive Through : Path → Path → Prop where
  | itself (path : Path) : Through path path
  | parent {path outer inner : Path} (above : path.parent? = some outer) (through : Through outer inner) :
    Through path inner

/-- Whether nothing has come of a tree but directories where nothing stood, each of them on the way to a path. -/
inductive Paved (path : Path) (tree : Tree) : Tree → Prop where
  | start : Paved path tree tree
  | made {before : Tree} {outer : Path} {location : Location} (paved : Paved path tree before)
    (through : Through path outer) (vacant : before.vacancy (withoutEndSlashes outer) = .ok location) :
    Paved path tree (before.put location (.directory 0))

theorem Paved.trans (first : Paved path tree after) (second : Paved path after last) : Paved path tree last := by
  induction second with
  | start => exact first
  | made _ through vacant ih => exact .made ih through vacant

theorem Paved.outwards (above : path.parent? = some outer) (paved : Paved outer tree after) : Paved path tree after := by
  induction paved with
  | start => exact .start
  | made _ through vacant ih => exact .made ih (.parent above through) vacant

theorem Paved.grows (paved : Paved path tree after) : Grows tree after := by
  induction paved with
  | start => exact Grows.refl tree
  | made _ _ vacant ih => exact ih.trans (grows_put (vacancy_iff.mp vacant).2 rfl)

/-- What a tree holds besides are directories. -/
theorem Paved.find? (paved : Paved path tree after) (location : Location) :
    after.find? location = tree.find? location ∨
      tree.find? location = none ∧ after.find? location = some (.directory 0) := by
  induction paved with
  | start => exact .inl rfl
  | @made before outer made paved through vacant ih =>
    have nothing := (vacancy_iff.mp vacant).2
    by_cases same : location = made
    · subst same
      rcases ih with same | ⟨_, there⟩
      · exact .inr ⟨same ▸ nothing, by simp⟩
      · rw [there] at nothing
        cases nothing
    · rw [find?_put, if_neg same]
      exact ih

theorem makeDirectory_ok (made : tree.makeDirectory path = .ok after) :
    ∃ names location, steps? path = .ok names ∧ tree.vacancy (withoutEndSlashes path) = .ok location ∧
      after = tree.put location (.directory 0) := by
  obtain ⟨names, spelled, made⟩ := bind_ok made
  obtain ⟨location, vacant, made⟩ := bind_ok made
  cases made
  exact ⟨names, location, spelled, vacant, rfl⟩

theorem makeDirectory_paved (made : tree.makeDirectory path = .ok after) : Paved path tree after := by
  obtain ⟨_, _, _, vacant, rfl⟩ := makeDirectory_ok made
  exact .made .start (.itself path) vacant

theorem ensureDirectory_paved (tree : Tree) (path : Path) : Paved path tree (tree.ensureDirectory path).2 := by
  unfold ensureDirectory
  split
  next made => exact makeDirectory_paved made
  next => split <;> exact .start

theorem makeDirectoriesWithin_paved (tree : Tree) (path : Path) (depth : Nat) :
    Paved path tree (tree.makeDirectoriesWithin path depth).2 := by
  induction depth generalizing path with
  | zero => exact .start
  | succ depth ih =>
    unfold makeDirectoriesWithin
    split
    next => exact .start
    next =>
      split
      next made => exact makeDirectory_paved made
      next =>
        split
        next => exact .start
        next outer above =>
          have outwards := (ih outer).outwards above
          split
          next changed ran =>
            rw [ran] at outwards
            exact outwards.trans (ensureDirectory_paved changed path)
          next => exact outwards
      next => split <;> exact .start

theorem makeDirectories_paved (tree : Tree) (path : Path) : Paved path tree (tree.makeDirectories path).2 :=
  makeDirectoriesWithin_paved tree path _

theorem namesOf_slashes (count : Nat) : namesOf (List.replicate count slash) = [] := by
  induction count with
  | zero => rfl
  | succ count ih =>
    have cut := namesOf_cut [] (List.replicate count slash)
    rw [ih, namesOf_nil] at cut
    exact cut

/-- A path that ends in slashes is another one with slashes behind it, unless it is made of nothing else. -/
theorem withoutEndSlashes_cases (path : Path) :
    withoutEndSlashes path = path ∨ ∃ count, path.text =
      (withoutEndSlashes path).text ++ slash :: List.replicate count slash ∧
      (withoutEndSlashes path).text ≠ [] ∧ (withoutEndSlashes path).text.getLast? ≠ some slash := by
  obtain ⟨count, slashes⟩ : ∃ count, path.text.reverse.takeWhile (· = slash) = List.replicate count slash := by
    refine ⟨(path.text.reverse.takeWhile (· = slash)).length, List.eq_replicate_of_mem ?_⟩
    intro c found
    simpa using List.mem_takeWhile_imp found
  have parts : path.text = dropEndWhile (· = slash) path.text ++ List.replicate count slash := by
    have both := congrArg List.reverse (List.takeWhile_append_dropWhile (p := (· = slash)) (l := path.text.reverse))
    rw [List.reverse_reverse, List.reverse_append, slashes, List.reverse_replicate] at both
    exact both.symm
  have lastKept := getLast?_dropEndWhile (· = slash) path.text
  unfold withoutEndSlashes
  dsimp only
  split
  next => exact .inl rfl
  next filled =>
    rcases count with _ | count
    · refine .inl ?_
      rw [List.replicate_zero, List.append_nil] at parts
      rw [← parts]
    · refine .inr ⟨count, parts, ?_, ?_⟩
      · rwa [List.isEmpty_iff] at filled
      · intro isSlash
        have kept := lastKept slash isSlash
        simp at kept

/-- The walk to a path that ends in slashes is the walk to the path without them, and asks for a directory. -/
theorem walk_of_endSlashes {count : Nat} {stem : OsText}
    (shape : path.text = stem ++ slash :: List.replicate count slash) :
    steps path.text = namesOf stem ++ [dot] := by
  have last : path.text.getLast? = some slash := by
    rw [shape, List.getLast?_append, ← List.replicate_succ, List.getLast?_replicate]
    rfl
  rw [steps_eq, if_pos last, shape, namesOf_cut, namesOf_slashes, List.append_nil]

/-- What is asked of the path without the slashes at its end, if all of it can be walked at all. -/
theorem steps?_withoutEndSlashes {names : List OsText} (spelled : steps? path = .ok names) :
    steps? (withoutEndSlashes path) = .ok names ∧ withoutEndSlashes path = path ∨
      ∃ init, steps? (withoutEndSlashes path) = .ok init ∧ names = init ++ [dot] ∧
        (withoutEndSlashes path).isAbsolute = path.isAbsolute := by
  rcases withoutEndSlashes_cases path with same | ⟨count, shape, filled, last⟩
  · exact .inl ⟨by rw [same, spelled], same⟩
  · refine .inr ⟨namesOf (withoutEndSlashes path).text, ?_, ?_, ?_⟩
    · obtain ⟨noNull, _, short, _⟩ := steps?_ok spelled
      have stemSteps : steps (withoutEndSlashes path).text = namesOf (withoutEndSlashes path).text := by
        rw [steps_eq, if_neg last]
      rw [← stemSteps]
      apply steps?_of
      · intro inStem
        apply noNull
        rw [shape]
        exact List.mem_append_left _ inStem
      · rwa [Bool.eq_false_iff, ne_eq, List.isEmpty_iff]
      · rw [shape, List.length_append] at short
        omega
    · rw [(steps?_ok spelled).2.2.2, walk_of_endSlashes shape]
    · rw [Path.isAbsolute, Path.isAbsolute, shape]
      cases front : (withoutEndSlashes path).text with
      | nil => exact absurd front filled
      | cons c rest => rfl

/-- A path leads to what it leads to without the slashes at its end, if that is a directory. -/
theorem isDirectory_withoutEndSlashes {names : List OsText} (spelled : steps? path = .ok names) :
    tree.isDirectory (withoutEndSlashes path) = tree.isDirectory path := by
  rcases steps?_withoutEndSlashes spelled with ⟨_, same⟩ | ⟨init, stemSpelled, shape, absolute⟩
  · rw [same]
  · have origins : tree.origin (withoutEndSlashes path) = tree.origin path := by rw [origin, origin, absolute]
    obtain ⟨left, walks⟩ := walk_append tree linkLimit (tree.origin path) init
    have walkedOn := walks [dot]
    rw [← shape] at walkedOn
    have stemLocate : tree.locate (withoutEndSlashes path) = tree.walk linkLimit (tree.origin path) init := by
      rw [locate_of_steps stemSpelled, origins]
    rw [Bool.eq_iff_iff, isDirectory_iff, isDirectory_iff, stemLocate, locate_of_steps spelled, walkedOn]
    constructor
    · intro stemIs
      obtain ⟨location, node, walked, held, isDirectory⟩ := stemIs
      refine ⟨location, node, ?_, held, isDirectory⟩
      rw [walked]
      exact (walk_dot held isDirectory).trans (walk_nil _ _ _)
    · intro pathIs
      obtain ⟨location, node, walked, held, isDirectory⟩ := pathIs
      obtain ⟨outer, first, asked⟩ := bind_ok walked
      rw [walk_single_dot] at asked
      split at asked
      next => cases asked
      next other found =>
        split at asked
        next directory =>
          cases asked
          exact ⟨location, other, first, found, directory⟩
        next => cases asked

theorem steps?_of_isDirectory (is : tree.isDirectory path = true) : ∃ names, steps? path = .ok names := by
  obtain ⟨_, _, located, _⟩ := isDirectory_iff.mp is
  obtain ⟨names, spelled, _⟩ := bind_ok located
  exact ⟨names, spelled⟩

/-- What can be said of a path without the slashes at its end, when there is nothing there. -/
theorem open?_withoutEndSlashes {names : List OsText} (spelled : steps? path = .ok names)
    (absent : tree.open? (withoutEndSlashes path) = .error .missing) : tree.open? path = .error .missing := by
  rcases steps?_withoutEndSlashes spelled with ⟨_, same⟩ | ⟨init, stemSpelled, shape, absolute⟩
  · rw [same] at absent
    exact absent
  · have origins : tree.origin (withoutEndSlashes path) = tree.origin path := by rw [origin, origin, absolute]
    rw [open?_missing_iff stemSpelled, origins] at absent
    rw [open?_missing_iff spelled, shape]
    exact .inl (absent.append dot [])

theorem open?_of_makeDirectory (made : tree.makeDirectory path = .ok after) : tree.open? path = .error .missing := by
  obtain ⟨names, location, spelled, vacant, _⟩ := makeDirectory_ok made
  exact open?_withoutEndSlashes spelled (open?_of_vacancy vacant)

/-- A path that is not empty can be walked, or fails for another reason than that something is missing. -/
theorem steps?_of_makeDirectory_missing (filled : path.text.isEmpty = false)
    (missing : tree.makeDirectory path = .error .missing) : ∃ names, steps? path = .ok names := by
  unfold makeDirectory at missing
  cases spelled : steps? path with
  | ok names => exact ⟨names, rfl⟩
  | error failure =>
    rw [spelled] at missing
    cases missing
    unfold steps? at spelled
    rw [filled] at spelled
    split at spelled
    next => cases spelled
    next =>
      rw [if_neg (by decide)] at spelled
      split at spelled
      next => cases spelled
      next => cases spelled

/-- What keeps a directory from being made, if it is missing, is missing from the path as well. -/
theorem open?_of_makeDirectory_missing (filled : path.text.isEmpty = false)
    (missing : tree.makeDirectory path = .error .missing) : tree.open? path = .error .missing := by
  obtain ⟨names, spelled⟩ := steps?_of_makeDirectory_missing filled missing
  unfold makeDirectory at missing
  rw [spelled] at missing
  have notThere : tree.vacancy (withoutEndSlashes path) = .error .missing := by
    cases vacant : tree.vacancy (withoutEndSlashes path) with
    | error failure =>
      rw [vacant] at missing
      cases missing
      rfl
    | ok location =>
      rw [vacant] at missing
      cases missing
  have entryMissing : tree.locateEntry (withoutEndSlashes path) = .error .missing := by
    unfold vacancy at notThere
    cases entry : tree.locateEntry (withoutEndSlashes path) with
    | error failure =>
      rw [entry] at notThere
      cases notThere
      rfl
    | ok found =>
      rw [entry] at notThere
      cases found with
      | none => cases notThere
      | some location =>
        simp only [bind, Except.bind] at notThere
        split at notThere
        next => cases notThere
        next => cases notThere
  have stem : ∃ init, steps? (withoutEndSlashes path) = .ok init := by
    rcases steps?_withoutEndSlashes spelled with ⟨same, _⟩ | ⟨init, same, _⟩
    · exact ⟨names, same⟩
    · exact ⟨init, same⟩
  obtain ⟨init, stemSpelled⟩ := stem
  exact open?_withoutEndSlashes spelled (open?_of_locateEntry stemSpelled entryMissing)

/-- A directory that is there is not made again. -/
theorem makeDirectory_of_isDirectory (is : tree.isDirectory path = true) :
    ∃ failure, tree.makeDirectory path = .error failure ∧ failure ≠ .missing := by
  have there : tree.open? path ≠ .error .missing := by
    intro absent
    rw [isDirectory, absent] at is
    cases is
  cases made : tree.makeDirectory path with
  | ok after => exact absurd (open?_of_makeDirectory made) there
  | error failure =>
    refine ⟨failure, rfl, ?_⟩
    intro missing
    obtain ⟨names, spelled⟩ := steps?_of_isDirectory is
    exact there (open?_of_makeDirectory_missing (steps?_ok spelled).2.1 (missing ▸ made))

/-- Where a path leads to a directory, nothing has to be made. -/
theorem makeDirectoriesWithin_of_isDirectory (is : tree.isDirectory path = true) (depth : Nat) :
    tree.makeDirectoriesWithin path (depth + 1) = (.ok (), tree) := by
  obtain ⟨failure, refused, notMissing⟩ := makeDirectory_of_isDirectory is
  obtain ⟨names, spelled⟩ := steps?_of_isDirectory is
  have filled := (steps?_ok spelled).2.1
  rw [makeDirectoriesWithin, if_neg (by simp [filled]), refused]
  cases failure with
  | missing => exact absurd rfl notMissing
  | _ => simp [is]

theorem makeDirectories_of_isDirectory (is : tree.isDirectory path = true) :
    tree.makeDirectories path = (.ok (), tree) := makeDirectoriesWithin_of_isDirectory is _

theorem isDirectory_of_makeDirectory (made : tree.makeDirectory path = .ok after) : after.isDirectory path = true := by
  obtain ⟨names, location, spelled, vacant, rfl⟩ := makeDirectory_ok made
  obtain ⟨entry, nothing⟩ := vacancy_iff.mp vacant
  rw [← isDirectory_withoutEndSlashes spelled, isDirectory_iff]
  have stays := (grows_put nothing (show Node.isLink (.directory 0) = false from rfl)).follows.locateEntry entry
  refine ⟨location, .directory 0, locate_of_locateEntry stays ?_, ?_, rfl⟩
  · simp
  · simp

theorem isDirectory_of_ensureDirectory (made : tree.ensureDirectory path = (.ok (), after)) : after.isDirectory path = true := by
  unfold ensureDirectory at made
  split at made
  next alone =>
    cases made
    exact isDirectory_of_makeDirectory alone
  next =>
    split at made
    next is =>
      cases made
      exact is
    next => cases made

/-- A path that directories were made for leads to one. -/
theorem isDirectory_of_makeDirectoriesWithin {depth : Nat} (made : tree.makeDirectoriesWithin path depth = (.ok (), after))
    (filled : path.text.isEmpty = false) : after.isDirectory path = true := by
  unfold makeDirectoriesWithin at made
  split at made
  next => cases made
  next =>
    rw [if_neg (by simp [filled])] at made
    split at made
    next alone =>
      cases made
      exact isDirectory_of_makeDirectory alone
    next =>
      split at made
      next => cases made
      next =>
        split at made
        next => exact isDirectory_of_ensureDirectory made
        next failed notOk => exact absurd made (notOk _)
    next =>
      split at made
      next is =>
        cases made
        exact is
      next => cases made

theorem isDirectory_of_makeDirectories (made : tree.makeDirectories path = (.ok (), after))
    (filled : path.text.isEmpty = false) : after.isDirectory path = true :=
  isDirectory_of_makeDirectoriesWithin made filled

/-- A path that directories could be made for led to a directory, or nowhere. -/
theorem open?_of_makeDirectoriesWithin {depth : Nat} (made : tree.makeDirectoriesWithin path depth = (.ok (), after))
    (filled : path.text.isEmpty = false) : tree.isDirectory path = true ∨ tree.open? path = .error .missing := by
  unfold makeDirectoriesWithin at made
  split at made
  next => cases made
  next =>
    rw [if_neg (by simp [filled])] at made
    split at made
    next alone => exact .inr (open?_of_makeDirectory alone)
    next missing => exact .inr (open?_of_makeDirectory_missing filled missing)
    next =>
      split at made
      next is => exact .inl is
      next => cases made

theorem open?_of_makeDirectories (made : tree.makeDirectories path = (.ok (), after)) (filled : path.text.isEmpty = false) :
    tree.isDirectory path = true ∨ tree.open? path = .error .missing :=
  open?_of_makeDirectoriesWithin made filled

end Tree

end SingleFlight.Files
