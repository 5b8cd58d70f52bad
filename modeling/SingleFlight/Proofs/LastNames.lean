import SingleFlight.Proofs.Enumeration
import SingleFlight.Proofs.Waypoints

/-!
The last name of a path. A name that is joined to a path is the last name of what comes out, and a path that leads to a
file has something above it.
-/

namespace SingleFlight

open Text OsText Files

theorem Files.Tree.lead_cases (root : Path) :
    lead root = [] ∧ root.isAbsolute = false ∨ ∃ init, lead root = init ++ [slash] := by
  unfold lead
  split
  next empty =>
    refine .inl ⟨rfl, ?_⟩
    rw [Path.isAbsolute, List.isEmpty_iff.mp empty]
    decide
  next =>
    split
    next slash => exact .inr (List.getLast?_eq_some_iff.mp slash)
    next => exact .inr ⟨root.text, rfl⟩

namespace Path

variable {absolute : Bool} {names rest : List OsText} {last : OsText} {path : Path} {name : OsText}

theorem piece_of_trimmed (nothing : trimmed absolute names = []) : ∀ piece ∈ names, piece = [] ∨ piece = dot := by
  fun_induction trimmed absolute names with
  | case1 =>
    intro piece never
    cases never
  | case2 first idle =>
    rw [Bool.or_eq_true, Bool.and_eq_true, List.isEmpty_iff, decide_eq_true_eq] at idle
    rw [List.forall_mem_singleton]
    exact idle.imp_right And.right
  | case3 => cases nothing
  | case4 last rest _ idle ih =>
    rw [Bool.or_eq_true, List.isEmpty_iff, decide_eq_true_eq] at idle
    exact List.forall_mem_cons.mpr ⟨idle, ih nothing⟩
  | case5 => cases nothing

theorem trimmed_cons (filled : last ≠ []) (noDot : last ≠ dot) :
    trimmed absolute (last :: rest) = last :: rest := by
  cases rest with
  | nil => simp [trimmed, filled, noDot]
  | cons => simp [trimmed, filled, noDot]

/-- A path without a parent has no names but dots. -/
theorem names_of_parent_none (top : path.parent? = none) : ∀ name ∈ Tree.namesOf path.text, name = dot := by
  have nothing : trimmed path.isAbsolute path.body.reverse = [] := by
    unfold parent? reversedNames at top
    split at top
    next => cases top
    next nothing => exact nothing
  intro name found
  rw [Tree.namesOf_body] at found
  obtain ⟨inBody, notEmpty⟩ := List.mem_filter.mp found
  rcases piece_of_trimmed nothing name (List.mem_reverse.mpr inBody) with empty | isDot
  · rw [empty] at notEmpty
    cases notEmpty
  · exact isDot

theorem body_join (root : Path) (plain : Tree.IsPlain name) : ∃ front, (root.join name).body = front ++ [name] := by
  have alone : split (· = slash) name = [name] := split_of_clean _ plain.clean
  unfold body
  rw [Tree.isAbsolute_join root plain, Tree.join_text root plain]
  rcases Tree.lead_cases root with ⟨empty, relative⟩ | ⟨init, ending⟩
  · rw [empty, relative, if_neg (by decide)]
    exact ⟨[], alone⟩
  · obtain ⟨first, more, pieces⟩ := splitOnto_head (· = slash) [] init
    rw [ending, List.append_assoc, List.singleton_append, split_append _ (by decide), alone, split, pieces]
    split
    next => exact ⟨more, rfl⟩
    next => exact ⟨_, rfl⟩

/-- A name that is joined to a path is the last name of the path that comes out. -/
theorem fileName?_join (root : Path) (plain : Tree.IsPlain name) (noDot : name ≠ dot) (noDots : name ≠ dots) :
    (root.join name).fileName? = some name := by
  obtain ⟨front, body⟩ := body_join root plain
  have names : (root.join name).reversedNames = name :: front.reverse := by
    rw [reversedNames, body, List.reverse_append, List.reverse_singleton, List.singleton_append,
      trimmed_cons plain.filled noDot]
  rw [fileName?, names]
  dsimp only
  rw [if_neg (not_or.mpr ⟨noDots, noDot⟩)]

theorem noSlash_fileName? (named : path.fileName? = some name) : slash ∉ name := by
  unfold fileName? at named
  split at named
  next last rest shape =>
    split at named
    next => cases named
    next =>
      cases named
      obtain ⟨dropped, whole⟩ := trimmed_isSuffix path.isAbsolute path.body.reverse
      rw [← reversedNames, shape] at whole
      have inBody : name ∈ path.body.reverse := whole ▸ List.mem_append_right dropped List.mem_cons_self
      exact Tree.body_clean path name (List.mem_reverse.mp inBody)
  next => cases named

theorem join_ends (path : Path) (name : OsText) : ∃ front, (path.join name).text = front ++ name := by
  unfold join
  split
  next => exact ⟨[], rfl⟩
  next =>
    split
    next => exact ⟨_, rfl⟩
    next => exact ⟨path.text ++ [slash], by simp⟩

end Path

namespace Files.Tree

variable {tree : Tree} {path : Path} {node : Node}

theorem namesOf_ne_nil (filled : path.text.isEmpty = false) (noSlash : path.text.getLast? ≠ some slash) :
    namesOf path.text ≠ [] := by
  cases last : path.text.getLast? with
  | none =>
    rw [List.getLast?_eq_none_iff, ← List.isEmpty_iff, filled] at last
    cases last
  | some c =>
    have inside := List.mem_of_getLast? last
    rw [← joined_split slash path.text] at inside
    rcases mem_joined inside with isSlash | ⟨piece, among, inPiece⟩
    · rw [last, isSlash] at noSlash
      exact absurd rfl noSlash
    · have kept : (!piece.isEmpty) = true := by
        cases piece with
        | nil => cases inPiece
        | cons => rfl
      exact List.ne_nil_of_mem (List.mem_filter.mpr ⟨among, kept⟩)

/-- A path whose last step is a dot leads to nothing but a directory. -/
theorem isDirectory_of_steps_dot {init : List OsText} (asked : steps path.text = init ++ [dot])
    (opened : tree.open? path = .ok node) : node.isDirectory = true := by
  obtain ⟨location, located, held⟩ := open?_iff.mp opened
  obtain ⟨names, spelled, walked⟩ := bind_ok located
  rw [(steps?_ok spelled).2.2.2, asked] at walked
  obtain ⟨left, walks⟩ := walk_append tree linkLimit (tree.origin path) init
  rw [walks] at walked
  obtain ⟨outer, _, last⟩ := bind_ok walked
  rw [walk_single_dot] at last
  split at last
  next => cases last
  next other found =>
    split at last
    next is =>
      cases last
      rwa [Option.some.inj (held.symm.trans found)]
    next => cases last

/-- A file stands below something. -/
theorem parent_of_isFile (isFile : tree.isFile path = true) : ∃ outer, path.parent? = some outer := by
  rw [← Option.isSome_iff_exists, ← Option.ne_none_iff_isSome]
  intro top
  obtain ⟨node, opened, nodeIs⟩ := isFile_iff.mp isFile
  obtain ⟨_, located, _⟩ := open?_iff.mp opened
  obtain ⟨_, spelled, _⟩ := bind_ok located
  -- Such a path is walked by dots alone, and the last of them leads to a directory.
  have dots := Path.names_of_parent_none top
  have asked : ∃ init, steps path.text = init ++ [dot] := by
    rw [steps_eq]
    split
    next => exact ⟨_, rfl⟩
    next noSlash =>
      have filled := namesOf_ne_nil (steps?_ok spelled).2.1 noSlash
      refine ⟨(namesOf path.text).dropLast, ?_⟩
      rw [← dots _ (List.getLast_mem filled), List.dropLast_append_getLast]
  obtain ⟨init, asked⟩ := asked
  have directory := isDirectory_of_steps_dot asked opened
  cases node <;> simp [Node.isFile, Node.isDirectory] at nodeIs directory

end Files.Tree

end SingleFlight
