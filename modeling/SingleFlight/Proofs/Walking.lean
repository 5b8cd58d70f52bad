import Mathlib.Tactic.Common
import SingleFlight.Files.Effect

/-!
Walking through a tree of files. A walk depends on nothing but the working directory, the directories and
the links: a change that leaves these as they are leads every walk to where it led before.
-/

namespace SingleFlight

/-- What is answered after two steps is answered after the first. -/
theorem bind_ok {ε α β : Type} {first : Except ε α} {next : α → Except ε β} {result : β}
    (ran : (first >>= next) = .ok result) : ∃ value, first = .ok value ∧ next value = .ok result := by
  cases first with
  | error failure => cases ran
  | ok value => exact ⟨value, rfl, ran⟩

/-- Work that is done on each of a list is done on the list. -/
theorem mapM_eq_map {ε α β : Type} {work : α → Except ε β} {result : α → β} {items : List α}
    (each : ∀ item ∈ items, work item = .ok (result item)) : items.mapM work = .ok (items.map result) := by
  induction items with
  | nil => rfl
  | cons item rest ih =>
    rw [List.forall_mem_cons] at each
    rw [List.mapM_cons, each.1, ih each.2]
    rfl

/-- Work that fails on one of a list fails on the list. -/
theorem mapM_error {ε α β : Type} {work : α → Except ε β} {items : List α} {item : α} (among : item ∈ items)
    (failed : ∀ result, work item ≠ .ok result) : ∃ failure, items.mapM work = .error failure := by
  induction items with
  | nil => cases among
  | cons first rest ih =>
    rw [List.mapM_cons]
    cases done : work first with
    | error failure => exact ⟨failure, rfl⟩
    | ok result =>
      rcases List.mem_cons.mp among with rfl | later
      · exact absurd done (failed result)
      · obtain ⟨failure, stopped⟩ := ih later
        rw [stopped]
        exact ⟨failure, rfl⟩

namespace Files

open Text OsText

def Node.isLink : Node → Bool
  | .link _ => true
  | _ => false

namespace Tree

variable {tree after last : Tree} {links : Nat} {location dest : Location} {name : OsText} {rest more : List OsText}

/-- Whether a name is one that a walk looks for in a directory. -/
def IsProper (name : OsText) : Prop := name ≠ dot ∧ name ≠ dots ∧ name.length ≤ longestName

instance (name : OsText) : Decidable (IsProper name) :=
  inferInstanceAs (Decidable (name ≠ dot ∧ name ≠ dots ∧ name.length ≤ longestName))

theorem noLink_of {node : Node} (held : tree.find? location = some node)
    (plain : node.isLink = false) (target : OsText) :
    tree.find? location ≠ some (.link target) := by
  intro link
  rw [link] at held
  cases held
  cases plain

@[simp]
theorem walk_nil (tree : Tree) (links : Nat) (location : Location) : tree.walk links location [] = .ok location := by
  rw [walk]

section Steps

variable {node : Node} (found : tree.find? location = some node) (isDirectory : node.isDirectory = true)

include found isDirectory

theorem walk_dot : tree.walk links location (dot :: rest) = tree.walk links location rest := by
  rw [walk.eq_def]
  simp [found, isDirectory]

theorem walk_dots : tree.walk links location (dots :: rest) = tree.walk links location.tail rest := by
  rw [walk.eq_def]
  simp [found, isDirectory]

theorem walk_link (proper : IsProper name) {target : OsText}
    (link : tree.find? (name :: location) = some (.link target)) :
    tree.walk (links + 1) location (name :: rest) =
      tree.walk links (if target.isRooted then [] else location) (steps target ++ rest) := by
  rw [walk.eq_def]
  simp [found, isDirectory, proper.1, proper.2.1, Nat.not_lt.mpr proper.2.2, link]

theorem walk_link_zero (proper : IsProper name) {target : OsText}
    (link : tree.find? (name :: location) = some (.link target)) :
    tree.walk 0 location (name :: rest) = .error .linkLoop := by
  rw [walk.eq_def]
  simp [found, isDirectory, proper.1, proper.2.1, Nat.not_lt.mpr proper.2.2, link]

theorem walk_name (proper : IsProper name) (noLink : ∀ target, tree.find? (name :: location) ≠ some (.link target)) :
    tree.walk links location (name :: rest) = tree.walk links (name :: location) rest := by
  rw [walk.eq_def]
  simp only [found, isDirectory, proper.1, proper.2.1, Nat.not_lt.mpr proper.2.2, Bool.not_true, Bool.false_eq_true,
    if_false]
  split
  next link => exact absurd link (noLink _)
  next link => exact absurd link (noLink _)
  next => rfl

/-- A walk by one name leads below where it starts, unless a link is there. -/
theorem walk_single (proper : IsProper name) (noLink : ∀ target, tree.find? (name :: location) ≠ some (.link target)) :
    tree.walk links location [name] = .ok (name :: location) := by
  rw [walk_name found isDirectory proper noLink, walk_nil]

end Steps

theorem walk_missing (nothing : tree.find? location = none) :
    tree.walk links location (name :: rest) = .error .missing := by
  rw [walk.eq_def]
  simp [nothing]

theorem walk_notDirectory {node : Node} (found : tree.find? location = some node) (notDirectory : node.isDirectory = false) :
    tree.walk links location (name :: rest) = .error .notDirectory := by
  rw [walk.eq_def]
  simp [found, notDirectory]

/-- A single dot asks for a directory. -/
theorem walk_single_dot (tree : Tree) (links : Nat) (location : Location) :
    tree.walk links location [dot] =
      match tree.find? location with
      | none => .error .missing
      | some node => if node.isDirectory then .ok location else .error .notDirectory := by
  cases held : tree.find? location with
  | none => exact walk_missing held
  | some node =>
    dsimp only
    split
    next isDirectory => exact (walk_dot held isDirectory).trans (walk_nil _ _ _)
    next notDirectory => exact walk_notDirectory held (by simpa using notDirectory)

theorem walk_nameTooLong {node : Node} (found : tree.find? location = some node) (isDirectory : node.isDirectory = true)
    (notDot : name ≠ dot) (notDots : name ≠ dots) (long : longestName < name.length) :
    tree.walk links location (name :: rest) = .error .nameTooLong := by
  rw [walk.eq_def]
  simp [found, isDirectory, notDot, notDots, long]

/-- Walking names and then others is walking the others from where the names led, with what is left of
the links. -/
theorem walk_append (tree : Tree) (links : Nat) (location : Location) (names : List OsText) :
    ∃ left, ∀ more, tree.walk links location (names ++ more) =
      tree.walk links location names >>= fun dest => tree.walk left dest more := by
  fun_induction walk tree links location names with
  | case1 links location => exact ⟨links, fun more => rfl⟩
  | case2 links location name rest nothing => exact ⟨links, fun more => walk_missing nothing⟩
  | case3 links location name rest node found notDirectory =>
    exact ⟨links, fun more => walk_notDirectory found (by simpa using notDirectory)⟩
  | case4 links location rest node found isDirectory ih =>
    obtain ⟨left, ih⟩ := ih
    exact ⟨left, fun more => (walk_dot found (by simpa using isDirectory)).trans (ih more)⟩
  | case5 links location rest node found isDirectory _ ih =>
    obtain ⟨left, ih⟩ := ih
    exact ⟨left, fun more => (walk_dots found (by simpa using isDirectory)).trans (ih more)⟩
  | case6 links location name rest node found isDirectory notDot notDots long =>
    exact ⟨links, fun more => walk_nameTooLong found (by simpa using isDirectory) notDot notDots long⟩
  | case7 location name rest node found isDirectory notDot notDots short target link =>
    exact ⟨0, fun more => walk_link_zero found (by simpa using isDirectory) ⟨notDot, notDots, Nat.not_lt.mp short⟩ link⟩
  | case8 location name rest node found isDirectory notDot notDots short target links link ih =>
    obtain ⟨left, ih⟩ := ih
    refine ⟨left, fun more => ?_⟩
    have stepped : tree.walk (links + 1) location (name :: (rest ++ more)) =
        tree.walk links (if target.isRooted then [] else location) (steps target ++ (rest ++ more)) :=
      walk_link found (by simpa using isDirectory) ⟨notDot, notDots, Nat.not_lt.mp short⟩ link
    rw [← List.append_assoc] at stepped
    exact stepped.trans (by simpa using ih more)
  | case9 location name rest node found isDirectory notDot notDots short links notZero notSucc ih =>
    obtain ⟨left, ih⟩ := ih
    refine ⟨left, fun more => ?_⟩
    have noLink (target : OsText) : tree.find? (name :: location) ≠ some (.link target) := by
      intro link
      rcases links with _ | links
      · exact notZero target link rfl
      · exact notSucc target links link rfl
    exact (walk_name found (by simpa using isDirectory) ⟨notDot, notDots, Nat.not_lt.mp short⟩ noLink).trans (ih more)

theorem others_of_vacant (vacant : tree.find? location = none) : others tree.nodes location = tree.nodes := by
  rw [others, List.filter_eq_self]
  intro entry entryIn
  rw [find?, Option.map_eq_none_iff, List.find?_eq_none] at vacant
  simpa using vacant entry entryIn

theorem eq_of_nodes (sameNodes : after.nodes = tree.nodes) (sameHere : after.here = tree.here) : after = tree := by
  cases tree
  cases after
  cases sameNodes
  cases sameHere
  rfl

/-- What was put where nothing stood and is taken away again leaves no trace. -/
theorem erase_put (vacant : tree.find? location = none) (node : Node) :
    (tree.put location node).erase location = tree := by
  apply eq_of_nodes
  · simp only [erase, put, others, List.filter_append]
    have same := others_of_vacant vacant
    rw [others] at same
    rw [same, same]
    simp
  · rfl

theorem put_put (vacant : tree.find? location = none) (first second : Node) :
    (tree.put location first).put location second = tree.put location second := by
  apply eq_of_nodes
  · simp only [put, others, List.filter_append]
    have same := others_of_vacant vacant
    rw [others] at same
    rw [same, same]
    simp
  · rfl

theorem erase_put_put {other : Location} (vacant : tree.find? location = none) (different : other ≠ location)
    (first second : Node) :
    ((tree.put location first).put other second).erase location = tree.put other second := by
  have stillVacant : (tree.erase other).find? location = none := by
    rw [find?_erase, if_neg different.symm]
    exact vacant
  have same := others_of_vacant vacant
  have rest : others (others tree.nodes other) location = others tree.nodes other := others_of_vacant stillVacant
  apply eq_of_nodes
  · unfold others at same rest
    simp only [erase, put, others, List.filter_append]
    rw [same, rest]
    simp [different, Ne.symm different]
  · rfl

/-- Whether every way through one tree is a way through another one as well. -/
structure Follows (tree after : Tree) : Prop where
  here : after.here = tree.here
  directories : ∀ location node, tree.find? location = some node → node.isDirectory = true →
    ∃ other, after.find? location = some other ∧ other.isDirectory = true
  links : ∀ location target, after.find? location = some (.link target) ↔ tree.find? location = some (.link target)

theorem Follows.refl (tree : Tree) : Follows tree tree :=
  ⟨rfl, fun _ node found isDirectory => ⟨node, found, isDirectory⟩, fun _ _ => Iff.rfl⟩

theorem Follows.trans (first : Follows tree after) (second : Follows after last) : Follows tree last where
  here := second.here.trans first.here
  directories location node found isDirectory := by
    obtain ⟨other, otherFound, otherIs⟩ := first.directories location node found isDirectory
    exact second.directories location other otherFound otherIs
  links location target := (second.links location target).trans (first.links location target)

/-- What is put where no directory and no link stood, and is no link, stands in no way. -/
theorem follows_put {node : Node} (noLink : node.isLink = false)
    (vacated : ∀ held, tree.find? location = some held → held.isDirectory = false ∧ held.isLink = false) :
    Follows tree (tree.put location node) where
  here := rfl
  directories other held found isDirectory := by
    rw [find?_put]
    split
    next same =>
      subst same
      rw [(vacated held found).1] at isDirectory
      cases isDirectory
    next => exact ⟨held, found, isDirectory⟩
  links other target := by
    rw [find?_put]
    split
    next same =>
      subst same
      constructor
      · intro link
        cases link
        cases noLink
      · intro link
        have none := (vacated _ link).2
        cases none
    next => exact Iff.rfl

/-- Where a walk leads in one tree, it leads in every tree that follows it. -/
theorem Follows.walk (follows : Follows tree after) {names : List OsText}
    (walked : tree.walk links location names = .ok dest) : after.walk links location names = .ok dest := by
  fun_induction Tree.walk tree links location names with
  | case1 => rwa [walk_nil]
  | case2 | case3 | case6 | case7 => cases walked
  | case4 links location rest node found isDirectory ih =>
    obtain ⟨other, otherFound, otherIs⟩ := follows.directories _ node found (by simpa using isDirectory)
    rw [walk_dot otherFound otherIs]
    exact ih walked
  | case5 links location rest node found isDirectory _ ih =>
    obtain ⟨other, otherFound, otherIs⟩ := follows.directories _ node found (by simpa using isDirectory)
    rw [walk_dots otherFound otherIs]
    exact ih walked
  | case8 location name rest node found isDirectory notDot notDots short target links link ih =>
    obtain ⟨other, otherFound, otherIs⟩ := follows.directories _ node found (by simpa using isDirectory)
    rw [walk_link otherFound otherIs ⟨notDot, notDots, Nat.not_lt.mp short⟩ ((follows.links _ target).mpr link)]
    exact ih walked
  | case9 location name rest node found isDirectory notDot notDots short links notZero notSucc ih =>
    obtain ⟨other, otherFound, otherIs⟩ := follows.directories _ node found (by simpa using isDirectory)
    have noLink (target : OsText) : after.find? (name :: location) ≠ some (.link target) := by
      intro link
      rw [follows.links] at link
      rcases links with _ | links
      · exact notZero target link rfl
      · exact notSucc target links link rfl
    rw [walk_name otherFound otherIs ⟨notDot, notDots, Nat.not_lt.mp short⟩ noLink]
    exact ih walked

theorem origin_of_here (path : Path) (same : after.here = tree.here) : after.origin path = tree.origin path := by
  unfold origin
  rw [same]

variable {path : Path}

theorem steps?_ok {names : List OsText} (spelled : steps? path = .ok names) :
    0 ∉ path.text ∧ path.text.isEmpty = false ∧ path.text.length ≤ longestPath ∧
      names = steps path.text := by
  unfold steps? at spelled
  split at spelled
  next => cases spelled
  next noNull =>
    split at spelled
    next => cases spelled
    next filled =>
      split at spelled
      next => cases spelled
      next short =>
        cases spelled
        rw [List.contains_iff_mem] at noNull
        exact ⟨noNull, by simpa using filled, Nat.not_lt.mp short, rfl⟩

theorem steps?_of {path : Path} (noNull : 0 ∉ path.text) (filled : path.text.isEmpty = false)
    (short : path.text.length ≤ longestPath) : steps? path = .ok (steps path.text) := by
  unfold steps?
  rw [if_neg, if_neg, if_neg (Nat.not_lt.mpr short)]
  · rw [filled]
    decide
  · rw [List.contains_iff_mem]
    exact noNull

theorem steps?_nameTooLong {path : Path} (noNull : 0 ∉ path.text) (long : longestPath < path.text.length) :
    steps? path = .error .nameTooLong := by
  unfold steps?
  rw [if_neg, if_neg, if_pos long]
  · rw [List.isEmpty_iff]
    intro empty
    rw [empty] at long
    cases long
  · rw [List.contains_iff_mem]
    exact noNull

theorem locate_eq (tree : Tree) (path : Path) :
    tree.locate path = steps? path >>= fun names => tree.walk linkLimit (tree.origin path) names := rfl

theorem locate_of_steps {names : List OsText} (spelled : steps? path = .ok names) :
    tree.locate path = tree.walk linkLimit (tree.origin path) names := by
  rw [locate_eq, spelled]
  rfl

theorem Follows.locate (follows : Follows tree after) (located : tree.locate path = .ok location) :
    after.locate path = .ok location := by
  obtain ⟨names, spelled, walked⟩ := bind_ok located
  rw [locate_eq, spelled, origin_of_here path follows.here]
  exact follows.walk walked

/-- What the last name of a path stands for, with the walk to it taken apart. -/
theorem locateEntry_eq (tree : Tree) (path : Path) :
    tree.locateEntry path = steps? path >>= fun names =>
      tree.walk linkLimit (tree.origin path) names.dropLast >>= fun outer =>
        match tree.find? outer with
        | none => .error .missing
        | some node =>
          if !node.isDirectory then .error .notDirectory
          else match names.getLast? with
            | none => .ok none
            | some name =>
              if name = dot ∨ name = dots then .ok none
              else if longestName < name.length then .error .nameTooLong
              else .ok (some (name :: outer)) := rfl

/-- An entry is a name in a directory to which the names before it lead. -/
theorem locateEntry_iff : tree.locateEntry path = .ok (some location) ↔
    ∃ init name outer node, steps? path = .ok (init ++ [name]) ∧
      tree.walk linkLimit (tree.origin path) init = .ok outer ∧ tree.find? outer = some node ∧
      node.isDirectory = true ∧ IsProper name ∧ location = name :: outer := by
  rw [locateEntry_eq]
  constructor
  · intro found
    obtain ⟨names, spelled, found⟩ := bind_ok found
    obtain ⟨outer, walked, found⟩ := bind_ok found
    split at found
    next => cases found
    next node held =>
      split at found
      next => cases found
      next isDirectory =>
        split at found
        next => cases found
        next name last =>
          split at found
          next => cases found
          next notDots =>
            split at found
            next => cases found
            next short =>
              cases found
              obtain ⟨init, rfl⟩ := List.getLast?_eq_some_iff.mp last
              rw [List.dropLast_concat] at walked
              rw [not_or] at notDots
              exact ⟨init, name, outer, node, spelled, walked, held, by simpa using isDirectory,
                ⟨notDots.1, notDots.2, Nat.not_lt.mp short⟩, rfl⟩
  · intro given
    obtain ⟨init, name, outer, node, spelled, walked, held, isDirectory, ⟨notDot, notDots, short⟩, rfl⟩ := given
    simp [spelled, walked, held, isDirectory, notDot, notDots, Nat.not_lt.mpr short, bind, Except.bind]

theorem Follows.locateEntry (follows : Follows tree after) (entry : tree.locateEntry path = .ok (some location)) :
    after.locateEntry path = .ok (some location) := by
  rw [locateEntry_iff] at entry ⊢
  obtain ⟨init, name, outer, node, spelled, walked, held, isDirectory, proper, rfl⟩ := entry
  obtain ⟨other, otherHeld, otherIs⟩ := follows.directories outer node held isDirectory
  refine ⟨init, name, outer, other, spelled, ?_, otherHeld, otherIs, proper, rfl⟩
  rw [origin_of_here path follows.here]
  exact follows.walk walked

/-- A path whose last name is no link leads to where its last name stands. -/
theorem locate_of_locateEntry (entry : tree.locateEntry path = .ok (some location))
    (noLink : ∀ target, tree.find? location ≠ some (.link target)) : tree.locate path = .ok location := by
  obtain ⟨init, name, outer, node, spelled, walked, held, isDirectory, proper, rfl⟩ := locateEntry_iff.mp entry
  obtain ⟨left, walks⟩ := walk_append tree linkLimit (tree.origin path) init
  have walkedOn := walks [name]
  rw [walked] at walkedOn
  rw [locate_eq, spelled]
  refine walkedOn.trans ?_
  exact walk_single held isDirectory proper noLink

/-- Where a path can be walked to its end, its last name stands for something or could. -/
theorem locateEntry_of_locate {init : List OsText} (spelled : steps? path = .ok (init ++ [name]))
    (notDot : name ≠ dot) (notDots : name ≠ dots)
    (located : tree.locate path = .ok location) : ∃ outer, tree.locateEntry path = .ok (some (name :: outer)) := by
  rw [locate_of_steps spelled] at located
  obtain ⟨left, walks⟩ := walk_append tree linkLimit (tree.origin path) init
  rw [walks] at located
  obtain ⟨outer, walked, last⟩ := bind_ok located
  cases held : tree.find? outer with
  | none =>
    rw [walk_missing held] at last
    cases last
  | some node =>
    have isDirectory : node.isDirectory = true := by
      rw [← Bool.not_eq_false]
      intro notDirectory
      rw [walk_notDirectory held notDirectory] at last
      cases last
    have short : name.length ≤ longestName := by
      rw [← Nat.not_lt]
      intro long
      rw [walk_nameTooLong held isDirectory notDot notDots long] at last
      cases last
    exact ⟨outer, locateEntry_iff.mpr
      ⟨init, name, outer, node, spelled, walked, held, isDirectory, ⟨notDot, notDots, short⟩, rfl⟩⟩

theorem vacancy_iff : tree.vacancy path = .ok location ↔
    tree.locateEntry path = .ok (some location) ∧ tree.find? location = none := by
  unfold vacancy
  cases entry : tree.locateEntry path with
  | error failure => simp [bind, Except.bind]
  | ok found =>
    cases found with
    | none => simp [bind, Except.bind]
    | some other =>
      simp only [bind, Except.bind]
      split
      next occupied =>
        constructor
        · intro never
          cases never
        · intro given
          obtain ⟨same, nothing⟩ := given
          cases same
          rw [nothing] at occupied
          cases occupied
      next vacant =>
        simp only [Option.not_isSome_iff_eq_none] at vacant
        constructor
        · intro same
          cases same
          exact ⟨rfl, vacant⟩
        · intro given
          obtain ⟨same, _⟩ := given
          cases same
          rfl

theorem entry_iff {node : Node} : tree.entry path = .ok (location, node) ↔
    tree.locateEntry path = .ok (some location) ∧ tree.find? location = some node := by
  unfold entry
  cases entry : tree.locateEntry path with
  | error failure => simp [bind, Except.bind]
  | ok found =>
    cases found with
    | none => simp [bind, Except.bind]
    | some other =>
      simp only [bind, Except.bind]
      cases held : tree.find? other with
      | none =>
        constructor
        · intro never
          cases never
        · intro given
          obtain ⟨same, found⟩ := given
          cases same
          rw [held] at found
          cases found
      | some first =>
        constructor
        · intro same
          cases same
          exact ⟨rfl, held⟩
        · intro given
          obtain ⟨same, found⟩ := given
          cases same
          rw [held] at found
          cases found
          rfl

/-- The node at the end of a path. -/
theorem open?_iff {node : Node} : tree.open? path = .ok node ↔
    ∃ location, tree.locate path = .ok location ∧ tree.find? location = some node := by
  unfold open?
  cases located : tree.locate path with
  | error failure => simp [bind, Except.bind]
  | ok location =>
    simp only [bind, Except.bind]
    cases held : tree.find? location with
    | none => simp [held]
    | some other => simp [held]

theorem isDirectory_iff : tree.isDirectory path = true ↔
    ∃ location node, tree.locate path = .ok location ∧ tree.find? location = some node ∧ node.isDirectory = true := by
  unfold isDirectory
  cases opened : tree.open? path with
  | error failure =>
    constructor
    · intro never
      cases never
    · intro given
      obtain ⟨location, node, located, held, _⟩ := given
      rw [open?_iff.mpr ⟨location, located, held⟩] at opened
      cases opened
  | ok node =>
    obtain ⟨location, located, held⟩ := open?_iff.mp opened
    constructor
    · intro isDirectory
      exact ⟨location, node, located, held, isDirectory⟩
    · intro given
      obtain ⟨other, otherNode, otherLocated, otherHeld, isDirectory⟩ := given
      rw [open?_iff.mpr ⟨other, otherLocated, otherHeld⟩] at opened
      cases opened
      exact isDirectory

theorem Follows.isDirectory (follows : Follows tree after) (is : tree.isDirectory path = true) :
    after.isDirectory path = true := by
  rw [isDirectory_iff] at is ⊢
  obtain ⟨location, node, located, held, isDirectory⟩ := is
  obtain ⟨other, otherHeld, otherIs⟩ := follows.directories location node held isDirectory
  exact ⟨location, other, follows.locate located, otherHeld, otherIs⟩

end Tree

end Files

end SingleFlight
