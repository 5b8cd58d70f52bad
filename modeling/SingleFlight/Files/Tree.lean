import SingleFlight.Files.Failure
import SingleFlight.Ledger.Database
import SingleFlight.Path
import SingleFlight.Text.Utf8

/-!
Trees of files. A tree maps locations to nodes; a path is walked from the working directory, through
links, to a location. Main statements: what a location holds after a node is put there or taken away.
-/

namespace SingleFlight.Files

open Text OsText

/-- The names that lead to a node, the innermost first. -/
abbrev Location := List OsText

inductive Node where
  | file (content : List Byte)
  | database (content : Ledger.Database)
  | directory (modified : Int)
  | link (target : OsText)
  deriving DecidableEq

namespace Node

def isDirectory : Node → Bool
  | directory _ => true
  | _ => false

/-- Whether a node has content of its own, as files and databases do. -/
def isFile : Node → Bool
  | file _ | database _ => true
  | _ => false

end Node

/-- Nodes in no particular order, each location at most once. -/
structure Tree where
  nodes : List (Location × Node)
  here : Location
  distinct : (nodes.map (·.1)).Nodup

namespace Tree

/-- A tree that holds nothing but the working directory and what leads to it. -/
def empty : Tree := ⟨[([], .directory 0), (["work"], .directory 0)], ["work"], by decide⟩

def find? (tree : Tree) (location : Location) : Option Node :=
  (tree.nodes.find? (fun entry => decide (entry.1 = location))).map (·.2)

def others (nodes : List (Location × Node)) (location : Location) : List (Location × Node) :=
  nodes.filter (fun entry => decide (entry.1 ≠ location))

theorem nodup_others (nodes : List (Location × Node)) (location : Location) (distinct : (nodes.map (·.1)).Nodup) :
    ((others nodes location).map (·.1)).Nodup :=
  List.Nodup.sublist (List.Sublist.map _ (List.filter_sublist)) distinct

theorem nodup_put (nodes : List (Location × Node)) (location : Location) (node : Node)
    (distinct : (nodes.map (·.1)).Nodup) :
    ((others nodes location ++ [(location, node)]).map (·.1)).Nodup := by
  rw [List.map_append, List.nodup_append]
  refine ⟨nodup_others nodes location distinct, by simp, ?_⟩
  intro first inOthers second inNew
  obtain ⟨entry, member, rfl⟩ := List.mem_map.mp inOthers
  simp only [List.map_cons, List.map_nil, List.mem_singleton] at inNew
  subst inNew
  simpa using (List.mem_filter.mp member).2

def put (tree : Tree) (location : Location) (node : Node) : Tree :=
  { tree with
    nodes := others tree.nodes location ++ [(location, node)]
    distinct := nodup_put tree.nodes location node tree.distinct }

def erase (tree : Tree) (location : Location) : Tree :=
  { tree with
    nodes := others tree.nodes location
    distinct := nodup_others tree.nodes location tree.distinct }

theorem find?_others (nodes : List (Location × Node)) (location other : Location) :
    ((others nodes location).find? (fun entry => decide (entry.1 = other))) =
      if other = location then none else nodes.find? (fun entry => decide (entry.1 = other)) := by
  induction nodes with
  | nil => simp [others]
  | cons first rest ih =>
    unfold others at ih ⊢
    by_cases erased : first.1 = location
    · rw [List.filter_cons_of_neg (by simp [erased]), ih]
      by_cases same : other = location
      · simp [same]
      · rw [if_neg same, if_neg same, List.find?_cons_of_neg (by simp [erased, Ne.symm same])]
    · rw [List.filter_cons_of_pos (by simp [erased])]
      by_cases found : first.1 = other
      · have different : ¬other = location := fun same => erased (found.trans same)
        simp [found, different]
      · rw [List.find?_cons_of_neg (by simp [found]), ih, List.find?_cons_of_neg (by simp [found])]

@[simp]
theorem find?_put (tree : Tree) (location other : Location) (node : Node) :
    (tree.put location node).find? other = if other = location then some node else tree.find? other := by
  simp only [find?, put, List.find?_append, find?_others]
  by_cases same : other = location
  · simp [same]
  · simp [same, Ne.symm same]

@[simp]
theorem find?_erase (tree : Tree) (location other : Location) :
    (tree.erase location).find? other = if other = location then none else tree.find? other := by
  simp only [find?, erase, find?_others]
  split <;> rfl

/-- The names directly below a location, with their nodes. -/
def children (tree : Tree) (location : Location) : List (OsText × Node) :=
  tree.nodes.filterMap fun entry =>
    match entry.1 with
    | name :: outer => if outer = location then some (name, entry.2) else none
    | [] => none

def longestName : Nat := 255

def longestPath : Nat := 4095

def linkLimit : Nat := 40

/-- The names that a path is walked by. A slash at the end asks for a directory, as a dot does. -/
def steps (text : OsText) : List OsText :=
  let names := (split (· = slash) text).filter fun name => !name.isEmpty
  if text.getLast? = some slash then names.concat dot else names

/-- Walks names from a location, through at most `links` links. The last name need not exist. -/
def walk (tree : Tree) (links : Nat) (location : Location) : List OsText → Except Failure Location
  | [] => .ok location
  | name :: rest =>
    match tree.find? location with
    | none => .error .missing
    | some node =>
      if !node.isDirectory then .error .notDirectory
      else if name = dot then walk tree links location rest
      else if name = dots then walk tree links location.tail rest
      else if longestName < name.length then .error .nameTooLong
      else
        match tree.find? (name :: location), links with
        | some (.link _), 0 => .error .linkLoop
        | some (.link target), links + 1 =>
          walk tree links (if target.isRooted then [] else location) (steps target ++ rest)
        | _, links => walk tree links (name :: location) rest
termination_by names => (links, names.length)

/-- The names of a path that can be walked at all. -/
def steps? (path : Path) : Except Failure (List OsText) :=
  if path.text.contains 0 then .error .invalidName
  else if path.text.isEmpty then .error .missing
  else if longestPath < path.text.length then .error .nameTooLong
  else .ok (steps path.text)

def origin (tree : Tree) (path : Path) : Location := if path.isAbsolute then [] else tree.here

/-- The location that a path leads to. -/
def locate (tree : Tree) (path : Path) : Except Failure Location := do
  walk tree linkLimit (tree.origin path) (← steps? path)

/-- The location that the last name of a path stands for, whether there is a node and whether it is a
link. A path that ends in a dot or two dots has no last name. -/
def locateEntry (tree : Tree) (path : Path) : Except Failure (Option Location) := do
  let names ← steps? path
  let outer ← walk tree linkLimit (tree.origin path) names.dropLast
  match tree.find? outer with
  | none => .error .missing
  | some node =>
    if !node.isDirectory then .error .notDirectory
    else match names.getLast? with
      | none => .ok none
      | some name =>
        if name = dot ∨ name = dots then .ok none
        else if longestName < name.length then .error .nameTooLong
        else .ok (some (name :: outer))

/-- The node that a path leads to. -/
def open? (tree : Tree) (path : Path) : Except Failure Node := do
  match tree.find? (← tree.locate path) with
  | none => .error .missing
  | some node => .ok node

/-- How a database starts. These bytes are no text. -/
def databaseHeader : List Byte := Utf8.ofString "SQLite format 3" ++ [0x00, 0x10, 0x00, 0xFF]

def read (tree : Tree) (path : Path) : Except Failure (List Byte) := do
  match ← tree.open? path with
  | .file content => .ok content
  | .database _ => .ok databaseHeader
  | .directory _ => .error .isDirectory
  | .link _ => .error .linkLoop

def isDirectory (tree : Tree) (path : Path) : Bool :=
  match tree.open? path with
  | .ok node => node.isDirectory
  | .error _ => false

def isFile (tree : Tree) (path : Path) : Bool :=
  match tree.open? path with
  | .ok node => node.isFile
  | .error _ => false

/-- The entries of a directory. -/
def entries (tree : Tree) (path : Path) : Except Failure (List (OsText × Node)) := do
  let location ← tree.locate path
  match tree.find? location with
  | none => .error .missing
  | some node => if node.isDirectory then .ok (tree.children location) else .error .notDirectory

/-- The names in a directory. -/
def list (tree : Tree) (path : Path) : Except Failure (List OsText) := return (← tree.entries path).map (·.1)

/-- A directory in another one, with the time at which it last changed. -/
structure Subdirectory where
  path : Path
  modified : Int
  deriving DecidableEq

/-- The directories directly below a path; a link to a directory is none, and what cannot be listed
has none. -/
def subdirectories (tree : Tree) (path : Path) : List Subdirectory :=
  match tree.entries path with
  | .error _ => []
  | .ok entries => entries.filterMap fun entry =>
    match entry.2 with
    | .directory modified => some ⟨path.join entry.1, modified⟩
    | _ => none

end Tree

end SingleFlight.Files
