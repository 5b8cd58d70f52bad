import SingleFlight.Files.Tree
import SingleFlight.Text.Blank

/-!
Effects: the single changes that are made to a tree of files. An effect is done whole or it fails and
leaves the tree as it is, and a run of effects stops at the first one that fails.
-/

namespace SingleFlight.Files

open Text OsText

inductive Effect where
  | createNew (path : Path)
  | create (path : Path)
  | write (path : Path) (content : List Byte)
  | sync (path : Path)
  | link (source destination : Path)
  | rename (source destination : Path)
  | remove (path : Path)
  deriving DecidableEq

namespace Tree

/-- A location that nothing stands at yet; a link that leads nowhere stands there all the same. -/
def vacancy (tree : Tree) (path : Path) : Except Failure Location := do
  match ← tree.locateEntry path with
  | none => .error .exists
  | some location => if (tree.find? location).isSome then .error .exists else .ok location

/-- What an entry that is named by a path is, links not followed. -/
def entry (tree : Tree) (path : Path) : Except Failure (Location × Node) := do
  match ← tree.locateEntry path with
  | none => .error .isDirectory
  | some location =>
    match tree.find? location with
    | none => .error .missing
    | some node => .ok (location, node)

/-- A path without the slashes at its end. -/
def withoutEndSlashes (path : Path) : Path :=
  let kept := dropEndWhile (· = slash) path.text
  if kept.isEmpty then path else ⟨kept⟩

def makeDirectory (tree : Tree) (path : Path) : Except Failure Tree := do
  let _ ← steps? path
  return tree.put (← tree.vacancy (withoutEndSlashes path)) (.directory 0)

/-- Makes a directory where a path says, unless there is one. -/
def ensureDirectory (tree : Tree) (path : Path) : Except Failure Unit × Tree :=
  match tree.makeDirectory path with
  | .ok changed => (.ok (), changed)
  | .error failure => if tree.isDirectory path then (.ok (), tree) else (.error failure, tree)

/-- Makes a directory; where an outer one is missing, that one is made first, and it stays whatever
comes of the inner one. A path names fewer outer directories than it has bytes. -/
def makeDirectoriesWithin (tree : Tree) (path : Path) : Nat → Except Failure Unit × Tree
  | 0 => (.error .missing, tree)
  | depth + 1 =>
    if path.text.isEmpty then (.ok (), tree)
    else match tree.makeDirectory path with
      | .ok changed => (.ok (), changed)
      | .error .missing =>
        match path.parent? with
        | none => (.error .missing, tree)
        | some outer =>
          match makeDirectoriesWithin tree outer depth with
          | (.ok (), changed) => changed.ensureDirectory path
          | failed => failed
      | .error failure => if tree.isDirectory path then (.ok (), tree) else (.error failure, tree)

/-- Makes a directory and what is missing of the directories that lead to it. -/
def makeDirectories (tree : Tree) (path : Path) : Except Failure Unit × Tree :=
  tree.makeDirectoriesWithin path (path.text.length + 1)

/-- Performs an effect. A file that is created anew loses what it held, unless it has to be new. -/
def perform (tree : Tree) : Effect → Except Failure Tree
  | .createNew path => do return tree.put (← tree.vacancy path) (.file [])
  | .create path => do
    let location ← tree.locate path
    if (tree.find? location).any (·.isDirectory) then .error .isDirectory else .ok (tree.put location (.file []))
  | .write path content => do
    let location ← tree.locate path
    match tree.find? location with
    | some (.file held) => .ok (tree.put location (.file (held ++ content)))
    | some node => if node.isDirectory then .error .isDirectory else .error .invalidName
    | none => .error .missing
  | .sync path => do
    let _ ← tree.open? path
    return tree
  | .link source destination => do
    let (_, node) ← tree.entry source
    let location ← tree.vacancy destination
    return tree.put location node
  | .rename source destination => do
    let (start, node) ← tree.entry source
    match ← tree.locateEntry destination with
    | none => .error .busy
    | some location =>
      if (tree.find? location).any (·.isDirectory) then .error .isDirectory
      else .ok ((tree.erase start).put location node)
  | .remove path => do
    let (location, node) ← tree.entry path
    if node.isDirectory then .error .isDirectory else .ok (tree.erase location)

/-- Performs effects one after the other, up to the first that fails. -/
def performAll (tree : Tree) : List Effect → Except Failure Unit × Tree
  | [] => (.ok (), tree)
  | effect :: rest =>
    match tree.perform effect with
    | .ok changed => changed.performAll rest
    | .error failure => (.error failure, tree)

/-- Performs an effect if it can be. -/
def attempt (tree : Tree) (effect : Effect) : Tree :=
  match tree.perform effect with
  | .ok changed => changed
  | .error _ => tree

end Tree

end SingleFlight.Files
