import SingleFlight.Dictionary
import SingleFlight.Proofs.Directories

/-!
The order in which a tree tells its nodes. A system lists a directory in any order it likes; where a path leads, and what
is found there, is settled by the nodes alone.
-/

namespace SingleFlight.Files.Tree

open Text

variable {tree other : Tree} {path : Path} {location : Location}

/-- Whether two trees hold the same nodes, in whatever order each tells them. -/
structure Reordered (tree other : Tree) : Prop where
  here : other.here = tree.here
  nodes : other.nodes.Perm tree.nodes

theorem find?_iff {node : Node} : tree.find? location = some node ↔ (location, node) ∈ tree.nodes := by
  unfold find?
  constructor
  · intro found
    obtain ⟨entry, first, rfl⟩ := Option.map_eq_some_iff.mp found
    obtain rfl : entry.1 = location := by simpa using List.find?_some first
    exact List.mem_of_find?_eq_some first
  · intro member
    have first := find?_of_key tree.distinct member
    exact Option.map_eq_some_iff.mpr ⟨(location, node), first, rfl⟩

/-- What is listed under a path is what stands in the directory that the path leads to. -/
theorem entries_iff {entries : List (OsText × Node)} : tree.entries path = .ok entries ↔
    ∃ location node, tree.locate path = .ok location ∧ tree.find? location = some node ∧ node.isDirectory = true ∧
      entries = tree.children location := by
  constructor
  · intro listed
    obtain ⟨location, located, listed⟩ := bind_ok listed
    split at listed
    next => cases listed
    next node held =>
      split at listed
      next isDirectory =>
        cases listed
        exact ⟨location, node, located, held, isDirectory, rfl⟩
      next => cases listed
  · rintro ⟨location, node, located, held, isDirectory, rfl⟩
    simp [Tree.entries, located, held, isDirectory, bind, Except.bind]

/-- No name stands twice in a directory. -/
theorem nodup_children (tree : Tree) (outer : Location) : ((tree.children outer).map (·.1)).Nodup := by
  unfold children
  rw [List.Nodup, List.pairwise_map, List.pairwise_filterMap]
  refine (List.pairwise_map.mp tree.distinct).imp ?_
  intro first second different firstEntry firstIs secondEntry secondIs same
  apply different
  obtain ⟨firstLocation, firstNode⟩ := first
  obtain ⟨secondLocation, secondNode⟩ := second
  cases firstLocation with
  | nil => cases firstIs
  | cons firstName firstOuter =>
    cases secondLocation with
    | nil => cases secondIs
    | cons secondName secondOuter =>
      simp only [Option.ite_none_right_eq_some, Option.some.injEq] at firstIs secondIs
      obtain ⟨firstBelow, rfl⟩ := firstIs
      obtain ⟨secondBelow, rfl⟩ := secondIs
      rw [firstBelow, secondBelow]
      exact congrArg (· :: outer) same

theorem mem_children {name : OsText} {node : Node} {outer : Location} :
    (name, node) ∈ tree.children outer ↔ tree.find? (name :: outer) = some node := by
  rw [find?_iff, children, List.mem_filterMap]
  constructor
  · rintro ⟨⟨location, held⟩, entryIn, given⟩
    cases location with
    | nil => cases given
    | cons first above =>
      simp only [Option.ite_none_right_eq_some, Option.some.injEq, Prod.mk.injEq] at given
      obtain ⟨rfl, rfl, rfl⟩ := given
      exact entryIn
  · intro entryIn
    exact ⟨_, entryIn, if_pos rfl⟩

/-- What can be read under a path is settled by the node that is opened. -/
theorem read_of_open? {content : List Byte}
    (same : ∀ node, tree.open? path = .ok node → other.open? path = .ok node)
    (read : tree.read path = .ok content) : other.read path = .ok content := by
  obtain ⟨node, opened, given⟩ := bind_ok read
  rw [Tree.read, same node opened]
  exact given

theorem isFile_iff : tree.isFile path = true ↔ ∃ node, tree.open? path = .ok node ∧ node.isFile = true := by
  unfold isFile
  cases tree.open? path <;> simp

/-- Whether a path leads to a directory in which a name stands for another one, and not for a link to one. -/
def HasDirectory (tree : Tree) (path : Path) (name : OsText) (modified : Int) : Prop :=
  ∃ entries, tree.entries path = .ok entries ∧ (name, Node.directory modified) ∈ entries

theorem mem_subdirectories {directory : Subdirectory} : directory ∈ tree.subdirectories path ↔
    ∃ name, tree.HasDirectory path name directory.modified ∧ directory.path = path.join name := by
  unfold subdirectories HasDirectory
  cases listed : tree.entries path with
  | error failure => simp
  | ok entries =>
    simp only [List.mem_filterMap, Except.ok.injEq, exists_eq_left']
    constructor
    · rintro ⟨⟨name, node⟩, entryIn, told⟩
      cases node with
      | directory modified =>
        cases told
        exact ⟨name, entryIn, rfl⟩
      | file | database | link => cases told
    · rintro ⟨name, entryIn, same⟩
      exact ⟨_, entryIn, by rw [← same]⟩

/-- Two trees that have the same entries in a directory tell the same subdirectories of it, in some order. -/
theorem subdirectories_perm {outer : Location} (located : tree.locate path = .ok outer) (otherLocated : other.locate path = .ok outer)
    (held : other.find? outer = tree.find? outer) (same : ∀ name, other.find? (name :: outer) = tree.find? (name :: outer)) :
    (other.subdirectories path).Perm (tree.subdirectories path) := by
  have children : (other.children outer).Perm (tree.children outer) := by
    have apart (told : Tree) : (told.children outer).Nodup :=
      (List.pairwise_map.mp (nodup_children told outer)).imp fun different same => different (congrArg Prod.fst same)
    rw [List.perm_ext_iff_of_nodup (apart other) (apart tree)]
    rintro ⟨name, node⟩
    rw [mem_children, mem_children, same]
  rw [subdirectories, subdirectories, entries, entries, located, otherLocated]
  simp only [bind, Except.bind, held]
  cases tree.find? outer with
  | none => exact .refl _
  | some node =>
    cases isDirectory : node.isDirectory with
    | true => simpa [isDirectory] using children.filterMap _
    | false => simp [isDirectory]

namespace Reordered

theorem symm (reordered : Reordered tree other) : Reordered other tree := ⟨reordered.here.symm, reordered.nodes.symm⟩

theorem find? (reordered : Reordered tree other) (location : Location) : other.find? location = tree.find? location := by
  apply Option.ext
  intro node
  rw [find?_iff, find?_iff]
  exact reordered.nodes.mem_iff

theorem grows (reordered : Reordered tree other) : Grows tree other where
  here := reordered.here
  kept location node found := by rwa [reordered.find?]
  links location target link := by rwa [← reordered.find?]

theorem isDirectory (reordered : Reordered tree other) (path : Path) : other.isDirectory path = tree.isDirectory path := by
  rw [Bool.eq_iff_iff]
  exact ⟨reordered.symm.grows.follows.isDirectory, reordered.grows.follows.isDirectory⟩

theorem isFile (reordered : Reordered tree other) (path : Path) : other.isFile path = tree.isFile path := by
  have opens (node : Node) : other.open? path = .ok node ↔ tree.open? path = .ok node :=
    ⟨reordered.symm.grows.open?, reordered.grows.open?⟩
  rw [Bool.eq_iff_iff, isFile_iff, isFile_iff]
  simp only [opens]

/-- A directory lists the same entries in another order. -/
theorem entries (reordered : Reordered tree other) {entries : List (OsText × Node)}
    (listed : tree.entries path = .ok entries) :
    ∃ others, other.entries path = .ok others ∧ others.Perm entries := by
  obtain ⟨location, node, located, held, isDirectory, rfl⟩ := entries_iff.mp listed
  have listedOther : other.entries path = .ok (other.children location) := by
    rw [entries_iff]
    exact ⟨location, node, reordered.grows.follows.locate located, (reordered.find? location).trans held, isDirectory, rfl⟩
  exact ⟨other.children location, listedOther, reordered.nodes.filterMap _⟩

/-- Directories are told in another order. -/
theorem subdirectories (reordered : Reordered tree other) :
    (other.subdirectories path).Perm (tree.subdirectories path) := by
  cases listed : tree.entries path with
  | ok entries =>
    obtain ⟨others, otherListed, same⟩ := reordered.entries listed
    rw [Tree.subdirectories, Tree.subdirectories, listed, otherListed]
    exact same.filterMap _
  | error failure =>
    cases otherListed : other.entries path with
    | ok others =>
      obtain ⟨_, entered, _⟩ := reordered.symm.entries otherListed
      rw [listed] at entered
      cases entered
    | error otherFailure => rw [Tree.subdirectories, Tree.subdirectories, listed, otherListed]

theorem list (reordered : Reordered tree other) {names : List OsText} (listed : tree.list path = .ok names) :
    ∃ others, other.list path = .ok others := by
  obtain ⟨entries, entered, _⟩ := bind_ok listed
  obtain ⟨others, otherEntered, _⟩ := reordered.entries entered
  refine ⟨others.map (·.1), ?_⟩
  rw [Tree.list, otherEntered]
  rfl

theorem hasDirectory (reordered : Reordered tree other) {name : OsText} {modified : Int} :
    other.HasDirectory path name modified ↔ tree.HasDirectory path name modified := by
  have carried {first second : Tree} (reordered : Reordered first second) (has : first.HasDirectory path name modified) :
      second.HasDirectory path name modified := by
    obtain ⟨entries, listed, entryIn⟩ := has
    obtain ⟨others, listedOther, same⟩ := reordered.entries listed
    exact ⟨others, listedOther, same.mem_iff.mpr entryIn⟩
  exact ⟨carried reordered.symm, carried reordered⟩

end Reordered

end SingleFlight.Files.Tree
