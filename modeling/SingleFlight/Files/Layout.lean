import SingleFlight.Files.Effect
import SingleFlight.Json.Shape

/-!
Layouts: trees of files that are laid out entry by entry, together with the times at which directories
are to have changed. Entries and the contents of files are described in JSON.
-/

namespace SingleFlight.Files

open Text OsText

inductive Entry where
  | file (content : List Byte)
  | directory (modified : Option Int)
  | link (target : OsText)
  deriving DecidableEq

namespace Entry

/-- The bytes that pairs of hexadecimal digits stand for. -/
def hexBytes : List Char → List Byte
  | high :: low :: rest => UInt8.ofNat ((hexNumber? [high, low]).getD 0) :: hexBytes rest
  | _ => []

/-- A text that is repeated. -/
def repeated : Json → List Byte
  | .list [.text text, .number times] => (List.replicate times.toNat (Utf8.ofString text)).flatten
  | _ => []

/-- Content is given as a text, as bytes in hexadecimal, or as texts each of which is repeated. -/
def contentOf (json : Json) : List Byte :=
  match json, json.field? "hex", json.field? "parts" with
  | .text text, _, _ => Utf8.ofString text
  | _, some (.text digits), _ => hexBytes digits.toList
  | _, _, some (.list parts) => parts.flatMap repeated
  | _, _, _ => []

def modified? (json : Json) : Option Int :=
  match json.field? "mtime" with
  | some (.number modified) => some modified
  | _ => none

def ofJson (json : Json) : Entry :=
  match json.field? "dir", json.field? "symlink" with
  | some (.bool true), _ => .directory (modified? json)
  | _, some (.text target) => .link target
  | _, _ => .file (contentOf json)

end Entry

structure Layout where
  tree : Tree
  /-- Times of change, the last one that was given first. -/
  declared : List (Location × Int)

namespace Layout

def empty : Layout := ⟨Tree.empty, []⟩

/-- The location of a path that leads through no links. -/
def plainLocation (tree : Tree) (path : Path) : Location :=
  ((split (· = slash) path.text).filter fun name => !(name.isEmpty || name = dot)).reverse ++ tree.here

def withOuterDirectories (tree : Tree) (path : Path) : Tree :=
  match path.parent? with
  | some outer => if outer.text.isEmpty then tree else (tree.makeDirectories outer).2
  | none => tree

/-- Puts a file where a path leads, unless a directory stands there. -/
def putFile (tree : Tree) (path : Path) (content : List Byte) : Tree :=
  match tree.locate path with
  | .ok location => if (tree.find? location).any (·.isDirectory) then tree else tree.put location (.file content)
  | .error _ => tree

/-- Puts a link at a path, if nothing stands there. -/
def putLink (tree : Tree) (path : Path) (target : OsText) : Tree :=
  match tree.vacancy path with
  | .ok location => tree.put location (.link target)
  | .error _ => tree

/-- Lays out an entry, with the directories that lead to it. -/
def add (layout : Layout) (path : Path) (entry : Entry) : Layout :=
  let tree := withOuterDirectories layout.tree path
  match entry with
  | .file content => { layout with tree := putFile tree path content }
  | .link target => { layout with tree := putLink tree path target }
  | .directory modified =>
    { tree := (tree.makeDirectories path).2
      declared := (modified.map fun time => (plainLocation tree path, time)).toList ++ layout.declared }

def addAll (layout : Layout) (entries : List (Path × Entry)) : Layout :=
  entries.foldl (fun layout entry => layout.add entry.1 entry.2) layout

/-- When a directory is taken to have changed if nothing else is given. -/
def usualTime : Int := 1000000000

def declaredTime (layout : Layout) (location : Location) : Int :=
  ((layout.declared.find? fun entry => decide (entry.1 = location)).map (·.2)).getD usualTime

/-- The tree, with all directories changed at the times that were given. -/
def settled (layout : Layout) : Tree :=
  layout.tree.nodes.foldl (fun tree entry =>
    match entry.2 with
    | .directory _ => tree.put entry.1 (.directory (layout.declaredTime entry.1))
    | _ => tree) layout.tree

/-- The entries of a list of pairs of a path and an entry. -/
def entriesOfJson : Json → List (Path × Entry)
  | .list pairs => pairs.filterMap fun pair =>
    match pair with
    | .list [.text path, entry] => some (.ofText path, Entry.ofJson entry)
    | _ => none
  | _ => []

end Layout

end SingleFlight.Files
