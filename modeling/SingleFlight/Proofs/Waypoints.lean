import Mathlib.Data.List.Chain
import SingleFlight.Proofs.Directories

/-!
The trees that are passed through while directories are made. Each of them is the one before with a directory
put where nothing stood; and from each of them, making the directories anew leads to where it led at first.
-/

namespace SingleFlight

open Text OsText

namespace Path

variable {absolute : Bool} {names rest : List OsText} {last : OsText}

theorem trimmed_isSuffix (absolute : Bool) (names : List OsText) :
    ∃ dropped, names = dropped ++ trimmed absolute names := by
  fun_induction trimmed absolute names with
  | case1 => exact ⟨[], rfl⟩
  | case2 first => exact ⟨[first], (List.append_nil _).symm⟩
  | case3 first => exact ⟨[], rfl⟩
  | case4 last rest _ _ ih =>
    obtain ⟨dropped, shape⟩ := ih
    exact ⟨last :: dropped, congrArg (last :: ·) shape⟩
  | case5 last rest => exact ⟨[], rfl⟩

theorem trimmed_head (left : trimmed absolute names = last :: rest) : last ≠ [] := by
  fun_induction trimmed absolute names with
  | case1 => cases left
  | case2 => cases left
  | case3 first filled =>
    cases left
    intro empty
    rw [empty] at filled
    exact filled rfl
  | case4 _ _ _ _ ih => exact ih left
  | case5 first more _ filled =>
    cases left
    intro empty
    rw [empty] at filled
    exact filled rfl

/-- A path has one name at least if it has a parent, and those of the parent come before it. -/
theorem body_of_parent {path outer : Path} (above : path.parent? = some outer) : ∃ kept more last,
    outer = ofReversedNames path.isAbsolute kept.reverse ∧ path.body = kept ++ more ∧ last ∈ more ∧ last ≠ [] := by
  unfold parent? at above
  split at above
  next last rest shape =>
    cases above
    obtain ⟨behind, body⟩ := trimmed_isSuffix path.isAbsolute path.body.reverse
    obtain ⟨between, restShape⟩ := trimmed_isSuffix path.isAbsolute rest
    have reversed : path.body.reverse = behind ++ last :: (between ++ trimmed path.isAbsolute rest) := by
      rw [← restShape, ← shape]
      exact body
    refine ⟨(trimmed path.isAbsolute rest).reverse, between.reverse ++ last :: behind.reverse, last, ?_, ?_, ?_, trimmed_head shape⟩
    · rw [List.reverse_reverse]
    · have forth := congrArg List.reverse reversed
      rw [List.reverse_reverse] at forth
      simpa using forth
    · simp
  next => cases above

end Path

namespace Files.Tree

variable {tree after opened state : Tree} {path outer : Path} {depth : Nat}

/-- The names of a text that is put together from pieces are the pieces that are not empty. -/
theorem namesOf_pieces (pieces : List OsText) (clean : ∀ piece ∈ pieces, slash ∉ piece) :
    namesOf (pieces.intersperse [slash]).flatten = pieces.filter (fun name => !name.isEmpty) := by
  have alone (piece : OsText) (within : slash ∉ piece) :
      namesOf piece = [piece].filter (fun name => !name.isEmpty) := by
    rw [namesOf, split_of_clean (· = slash) fun c inside => decide_eq_false (ne_of_mem_of_not_mem inside within)]
  induction pieces with
  | nil => rfl
  | cons first rest ih =>
    have restNames := ih (fun piece found => clean piece (List.mem_cons_of_mem _ found))
    have firstNames := alone first (clean first List.mem_cons_self)
    cases rest with
    | nil => simpa using firstNames
    | cons second more =>
      have joined : ((first :: second :: more).intersperse [slash]).flatten =
          first ++ slash :: ((second :: more).intersperse [slash]).flatten := by simp
      rw [joined, namesOf_cut, restNames, firstNames, ← List.filter_append]
      rfl

theorem body_clean (path : Path) : ∀ piece ∈ path.body, slash ∉ piece := by
  intro piece found
  have among : piece ∈ split (· = slash) path.text := by
    unfold Path.body at found
    split at found
    next => exact List.mem_of_mem_tail found
    next => exact found
  intro inside
  have other := separators_splitOnto (· = slash) (fun _ never => absurd never List.not_mem_nil) among slash inside
  simp at other

theorem namesOf_body (path : Path) :
    namesOf path.text = path.body.filter (fun name => !name.isEmpty) := by
  unfold Path.body namesOf
  split
  next absolute =>
    cases shape : path.text with
    | nil => rfl
    | cons c rest =>
      rw [Path.isAbsolute, isRooted, shape] at absolute
      have isSlash : c = slash := by simpa using absolute
      have cut := split_append (· = slash) (c := slash) rfl [] rest
      rw [isSlash]
      rw [List.nil_append] at cut
      rw [cut]
      rfl
  next => rfl

/-- The names of a path are those of its parent and at least one more. -/
theorem namesOf_parent (above : path.parent? = some outer) :
    ∃ more, more ≠ [] ∧ namesOf path.text = namesOf outer.text ++ more := by
  obtain ⟨kept, more, last, rfl, body, lastIn, filled⟩ := Path.body_of_parent above
  have clean := body_clean path
  rw [body] at clean
  have keptNames := namesOf_pieces kept (fun piece found => clean piece (List.mem_append_left _ found))
  have outerNames : namesOf (Path.ofReversedNames path.isAbsolute kept.reverse).text =
      kept.filter (fun name => !name.isEmpty) := by
    rw [Path.ofReversedNames, List.reverse_reverse]
    split
    next =>
      have cut := namesOf_cut [] (kept.intersperse [slash]).flatten
      rw [namesOf_nil, List.nil_append, List.nil_append] at cut
      rw [List.singleton_append, cut, keptNames]
    next => rw [List.nil_append, keptNames]
  refine ⟨more.filter (fun name => !name.isEmpty), ?_, ?_⟩
  · rw [ne_eq, List.filter_eq_nil_iff]
    intro none
    apply none last lastIn
    simpa using filled
  · rw [namesOf_body, body, List.filter_append, outerNames]

/-- A path and its parent start at the same place. -/
theorem isAbsolute_parent (above : path.parent? = some outer) (filled : outer.text.isEmpty = false) :
    outer.isAbsolute = path.isAbsolute := by
  obtain ⟨kept, more, last, rfl, body, lastIn, lastFilled⟩ := Path.body_of_parent above
  cases absolute : path.isAbsolute with
  | true =>
    rw [Path.isAbsolute, isRooted, Path.ofReversedNames]
    rfl
  | false =>
    rw [absolute] at filled
    have pieces : split (· = slash) path.text = kept ++ more := by
      unfold Path.body at body
      rwa [absolute] at body
    cases kept with
    | nil => cases filled
    | cons first rest =>
      cases shape : path.text with
      | nil =>
        rw [shape] at pieces
        obtain ⟨_, nothing⟩ := List.cons.inj pieces
        have none : more = [] := (List.append_eq_nil_iff.mp nothing.symm).2
        rw [none] at lastIn
        cases lastIn
      | cons c chars =>
        have other : c ≠ slash := by
          intro isSlash
          rw [Path.isAbsolute, isRooted, shape, isSlash] at absolute
          cases absolute
        obtain ⟨ahead, later, split⟩ := splitOnto_head (· = slash) [c] chars
        have start : first = c :: ahead := by
          rw [shape, Text.split, splitOnto, if_neg (by simpa using other), split] at pieces
          exact (List.cons.inj pieces).1.symm
        have front : ∃ behind, ((first :: rest).intersperse [slash]).flatten = c :: behind := by
          rw [start]
          cases rest with
          | nil => exact ⟨_, rfl⟩
          | cons second others => exact ⟨_, rfl⟩
        obtain ⟨behind, front⟩ := front
        rw [Path.isAbsolute, isRooted, Path.ofReversedNames, List.reverse_reverse, front]
        simpa using other

/-- Where the parent of a path leads nowhere, the path cannot be made. -/
theorem makeDirectory_of_parent {names outerNames : List OsText} (above : path.parent? = some outer)
    (spelled : steps? path = .ok names) (outerSpelled : steps? outer = .ok outerNames)
    (absent : tree.open? outer = .error .missing) : tree.makeDirectory path = .error .missing := by
  obtain ⟨more, filled, longer⟩ := namesOf_parent above
  have same := isAbsolute_parent above (steps?_ok outerSpelled).2.1
  have nowhere : LeadsNowhere tree linkLimit (tree.origin path) (namesOf outer.text) := by
    rw [open?_missing_iff outerSpelled, (steps?_ok outerSpelled).2.2.2, steps_eq] at absent
    have start : tree.origin outer = tree.origin path := by rw [origin, origin, same]
    rw [start] at absent
    split at absent
    next => exact absent.of_dot
    next => exact absent
  have onward (extra : List OsText) :
      LeadsNowhere tree linkLimit (tree.origin path) (namesOf outer.text ++ extra) := by
    cases extra with
    | nil => rwa [List.append_nil]
    | cons name rest => exact .inl (nowhere.append name rest)
  have pathNames := (steps?_ok spelled).2.2.2
  rw [steps_eq] at pathNames
  have missing {stem : Path} {stemNames : List OsText} (stemSpelled : steps? stem = .ok stemNames)
      (start : stem.isAbsolute = path.isAbsolute) {extra : List OsText}
      (front : stemNames.dropLast = namesOf outer.text ++ extra) : tree.locateEntry stem = .error .missing := by
    have begins : tree.origin stem = tree.origin path := by rw [origin, origin, start]
    rw [locateEntry_eq, stemSpelled, begins]
    change (tree.walk linkLimit (tree.origin path) stemNames.dropLast >>= _) = _
    rw [front]
    rcases onward extra with walked | ⟨dest, walked, nothing⟩
    · rw [walked]
      rfl
    · rw [walked]
      simp [bind, Except.bind, nothing]
  have shorter : (namesOf outer.text ++ more).dropLast = namesOf outer.text ++ more.dropLast :=
    List.dropLast_append_of_ne_nil filled
  have entryMissing : tree.locateEntry (withoutEndSlashes path) = .error .missing := by
    rcases steps?_withoutEndSlashes spelled with ⟨stemSpelled, stem⟩ | ⟨init, stemSpelled, shape, start⟩
    · rw [stem] at stemSpelled ⊢
      rw [longer] at pathNames
      split at pathNames
      next => exact missing stemSpelled rfl (by rw [pathNames, List.dropLast_concat])
      next => exact missing stemSpelled rfl (by rw [pathNames, shorter])
    · have stemNames : init = namesOf path.text := by
        split at pathNames
        next =>
          rw [shape] at pathNames
          exact List.append_cancel_right pathNames
        next noSlash =>
          rcases withoutEndSlashes_cases path with stem | ⟨count, ending, _⟩
          · rw [stem, spelled] at stemSpelled
            have never := Except.ok.inj stemSpelled
            rw [shape] at never
            exact absurd (congrArg List.length never) (by simp)
          · apply absurd _ noSlash
            rw [ending, List.getLast?_append, ← List.replicate_succ, List.getLast?_replicate]
            rfl
      exact missing stemSpelled start (by rw [stemNames, longer, shorter])
  unfold makeDirectory vacancy
  rw [spelled, entryMissing]
  rfl

/-- The trees that are passed through while a directory is made, and what is missing of those that lead to it. -/
def waypoints (tree : Tree) (path : Path) : Nat → List Tree
  | 0 => [tree]
  | depth + 1 =>
    if path.text.isEmpty then [tree]
    else match tree.makeDirectory path with
      | .ok changed => [tree, changed]
      | .error .missing =>
        match path.parent? with
        | none => [tree]
        | some outer =>
          match tree.makeDirectoriesWithin outer depth with
          | (.ok (), changed) => tree.waypoints outer depth ++ [(changed.ensureDirectory path).2]
          | _ => tree.waypoints outer depth
      | .error _ => [tree]

/-- How the making of a directory goes: it ends where it starts, or makes one directory, or goes by way of the
parent, which is made or is not. -/
inductive Passage (tree : Tree) (path : Path) : Nat → List Tree → Except Failure Unit × Tree → Prop where
  | still {depth : Nat} {answer : Except Failure Unit} : Passage tree path depth [tree] (answer, tree)
  | alone {depth : Nat} {changed : Tree} (made : tree.makeDirectory path = .ok changed) :
    Passage tree path depth [tree, changed] (.ok (), changed)
  | onward {depth : Nat} {outer : Path} {middle : Tree} (filled : path.text.isEmpty = false)
    (missing : tree.makeDirectory path = .error .missing) (above : path.parent? = some outer)
    (reached : tree.makeDirectoriesWithin outer depth = (.ok (), middle)) :
    Passage tree path (depth + 1) (tree.waypoints outer depth ++ [(middle.ensureDirectory path).2])
      (middle.ensureDirectory path)
  | stuck {depth : Nat} {outer : Path} {left : Tree} {failure : Failure} (above : path.parent? = some outer)
    (failed : tree.makeDirectoriesWithin outer depth = (.error failure, left)) :
    Passage tree path (depth + 1) (tree.waypoints outer depth) (.error failure, left)

/-- Each tree that is passed through is the one before, or has one directory more where nothing stood. -/
def IsStep (before after : Tree) : Prop :=
  after = before ∨ ∃ location, before.find? location = none ∧ after = before.put location (.directory 0)

theorem isStep_of_makeDirectory (made : tree.makeDirectory path = .ok after) : IsStep tree after := by
  obtain ⟨_, location, _, vacant, rfl⟩ := makeDirectory_ok made
  exact .inr ⟨location, (vacancy_iff.mp vacant).2, rfl⟩

theorem isStep_ensureDirectory (tree : Tree) (path : Path) : IsStep tree (tree.ensureDirectory path).2 := by
  unfold ensureDirectory
  split
  next made => exact isStep_of_makeDirectory made
  next => split <;> exact .inl rfl

theorem IsStep.grows (step : IsStep tree after) : Grows tree after := by
  rcases step with rfl | ⟨location, vacant, rfl⟩
  · exact Grows.refl after
  · exact grows_put vacant rfl

theorem passage (tree : Tree) (path : Path) (depth : Nat) :
    Passage tree path depth (tree.waypoints path depth) (tree.makeDirectoriesWithin path depth) := by
  cases depth with
  | zero => exact .still
  | succ depth =>
    rw [waypoints, makeDirectoriesWithin]
    by_cases empty : path.text.isEmpty = true
    · rw [if_pos empty, if_pos empty]
      exact .still
    · rw [if_neg empty, if_neg empty]
      cases made : tree.makeDirectory path with
      | ok changed => exact .alone made
      | error failure =>
        by_cases missing : failure = .missing
        · subst missing
          dsimp only
          cases above : path.parent? with
          | none => exact .still
          | some outer =>
            cases ran : tree.makeDirectoriesWithin outer depth with
            | mk answer left =>
              cases answer with
              | ok =>
                have reached := Passage.onward (by simpa using empty) made above ran
                dsimp only
                rwa [ran]
              | error failure =>
                have failed := Passage.stuck above ran
                dsimp only
                rwa [ran]
        · cases failure with
          | missing => exact absurd rfl missing
          | _ =>
            dsimp only
            split <;> exact .still

/-- The way starts at the tree that is given, ends at the one that is left, and leaves out no tree in between. -/
theorem waypoints_way (tree : Tree) (path : Path) (depth : Nat) :
    (tree.waypoints path depth).head? = some tree ∧
      (tree.waypoints path depth).getLast? = some (tree.makeDirectoriesWithin path depth).2 ∧
      (tree.waypoints path depth).IsChain IsStep := by
  induction depth generalizing path with
  | zero => exact ⟨rfl, rfl, .singleton _⟩
  | succ depth ih =>
    have way := passage tree path (depth + 1)
    generalize tree.waypoints path (depth + 1) = trees at way ⊢
    generalize tree.makeDirectoriesWithin path (depth + 1) = result at way ⊢
    cases way with
    | still => exact ⟨rfl, rfl, .singleton _⟩
    | alone made => exact ⟨rfl, rfl, .cons_cons (isStep_of_makeDirectory made) (.singleton _)⟩
    | @onward _ outer middle filled missing above reached =>
      obtain ⟨first, last, chain⟩ := ih outer
      rw [reached] at last
      refine ⟨?_, ?_, ?_⟩
      · rw [List.head?_append, first]
        rfl
      · rw [List.getLast?_concat]
      · rw [List.isChain_append]
        refine ⟨chain, .singleton _, ?_⟩
        intro before isLast after isFirst
        rw [last] at isLast
        cases isLast
        cases isFirst
        exact isStep_ensureDirectory middle path
    | @stuck _ outer left failure above failed =>
      obtain ⟨first, last, chain⟩ := ih outer
      rw [failed] at last
      exact ⟨first, last, chain⟩

/-- What stood in a tree stands in each tree on the way. -/
theorem grows_of_waypoint (passed : state ∈ tree.waypoints path depth) : Grows tree state := by
  obtain ⟨first, _, chain⟩ := waypoints_way tree path depth
  refine chain.induction (Grows tree) _ ?_ ?_ state passed
  · intro before after step grown
    exact grown.trans step.grows
  · intro some
    rw [List.head?_eq_some_head some] at first
    rw [Option.some.inj first]
    exact Grows.refl tree

/-- Where the parent is there already, making a directory is no more than making sure of it. -/
theorem makeDirectoriesWithin_eq {outer : Path} (filled : path.text.isEmpty = false) (above : path.parent? = some outer)
    (reached : tree.makeDirectoriesWithin outer depth = (.ok (), tree))
    (made : tree.ensureDirectory path = (.ok (), opened)) : tree.makeDirectoriesWithin path (depth + 1) = (.ok (), opened) := by
  rw [makeDirectoriesWithin, if_neg (by simp [filled])]
  cases alone : tree.makeDirectory path with
  | ok changed =>
    rw [ensureDirectory, alone] at made
    exact made
  | error failure =>
    cases failure with
    | missing =>
      dsimp only
      rw [above]
      dsimp only
      rw [reached]
      exact made
    | _ =>
      rw [ensureDirectory, alone] at made
      exact made

/-- From each tree on the way, making the directories anew leads to where the way leads. -/
theorem makeDirectoriesWithin_of_waypoint (made : tree.makeDirectoriesWithin path depth = (.ok (), opened))
    (passed : state ∈ tree.waypoints path depth) : state.makeDirectoriesWithin path depth = (.ok (), opened) := by
  induction depth generalizing path opened with
  | zero => cases made
  | succ depth ih =>
    have way := passage tree path (depth + 1)
    generalize tree.waypoints path (depth + 1) = trees at passed way
    generalize ran : tree.makeDirectoriesWithin path (depth + 1) = result at made way
    cases way with
    | still =>
      rw [List.mem_singleton.mp passed, ran, made]
    | alone alone =>
      rcases List.mem_cons.mp passed with first | last
      · rw [first, ran, made]
      · cases made
        rw [List.mem_singleton.mp last]
        exact makeDirectoriesWithin_of_isDirectory (isDirectory_of_makeDirectory alone) depth
    | @onward _ outer middle filled missing above reached =>
      rcases List.mem_append.mp passed with before | last
      · have stateReached := ih reached before
        obtain ⟨less, rfl⟩ : ∃ less, depth = less + 1 := by
          cases depth with
          | zero => cases reached
          | succ less => exact ⟨less, rfl⟩
        cases empty : outer.text.isEmpty with
        | true =>
          rw [waypoints, if_pos empty] at before
          rw [List.mem_singleton.mp before, ran, made]
        | false =>
          rcases open?_of_makeDirectoriesWithin stateReached empty with is | absent
          · have there := makeDirectoriesWithin_of_isDirectory is less
            have same : middle = state := by
              rw [stateReached] at there
              exact congrArg Prod.snd there
            rw [same] at made
            exact makeDirectoriesWithin_eq filled above there made
          · obtain ⟨names, spelled⟩ := steps?_of_makeDirectory_missing filled missing
            obtain ⟨outerNames, outerSpelled⟩ := steps?_of_isDirectory (isDirectory_of_makeDirectoriesWithin reached empty)
            have stateMissing := makeDirectory_of_parent above spelled outerSpelled absent
            rw [makeDirectoriesWithin, if_neg (by simp [filled]), stateMissing]
            dsimp only
            rw [above]
            dsimp only
            rw [stateReached]
            exact made
      · have there : state = opened := by
          rw [List.mem_singleton.mp last, made]
        rw [there]
        exact makeDirectoriesWithin_of_isDirectory (isDirectory_of_ensureDirectory made) depth
    | stuck => cases made

end Files.Tree

end SingleFlight
