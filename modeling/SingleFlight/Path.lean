import SingleFlight.Text.Ascii
import SingleFlight.Text.OsText

/-!
Paths of files. A path is kept as it was written; its parts are the names between slashes, where
empty names and single dots say nothing, except for a dot at the very front.
-/

namespace SingleFlight

open Text OsText

structure Path where
  text : OsText
  deriving DecidableEq

namespace Path

def empty : Path := ⟨[]⟩

def ofText (text : String) : Path := ⟨text⟩

/-- Whether a path is spelled in UTF-8, so that it can be written into a text. -/
def isText (path : Path) : Bool := path.text.isText

/-- A path as it is written into a text that takes any path. -/
def shown (path : Path) : String := path.text.shown

def isAbsolute (path : Path) : Bool := path.text.isRooted

/-- One slash joins two paths, and an absolute path stands for itself. -/
def join (path : Path) (name : OsText) : Path :=
  if name.isRooted || path.text.isEmpty then ⟨name⟩
  else if path.text.getLast? = some slash then ⟨path.text ++ name⟩
  else ⟨path.text ++ slash :: name⟩

/-- The names of a path, without the nothing in front of an absolute one. -/
def body (path : Path) : List OsText :=
  if path.isAbsolute then (split (· = slash) path.text).tail else split (· = slash) path.text

/-- Drops the names that say nothing from the end of a body that is given last name first. A dot at
the very front of a relative path says something. -/
def trimmed (absolute : Bool) : List OsText → List OsText
  | [] => []
  | [first] => if first.isEmpty || (absolute && first = dot) then [] else [first]
  | last :: rest => if last.isEmpty || last = dot then trimmed absolute rest else last :: rest

def reversedNames (path : Path) : List OsText := trimmed path.isAbsolute path.body.reverse

/-- The path with given names, which come last first. -/
def ofReversedNames (absolute : Bool) (names : List OsText) : Path :=
  ⟨(if absolute then [slash] else []) ++ (names.reverse.intersperse [slash]).flatten⟩

/-- The last name of a path, unless it is a dot or two dots. -/
def fileName? (path : Path) : Option OsText :=
  match path.reversedNames with
  | last :: _ => if last = dots ∨ last = dot then none else some last
  | [] => none

/-- The path without its last name. A path without names has none. -/
def parent? (path : Path) : Option Path :=
  match path.reversedNames with
  | _ :: rest => some (ofReversedNames path.isAbsolute (trimmed path.isAbsolute rest))
  | [] => none

/-- Another name in place of the last one; a path without a last name is extended. -/
def withFileName (path : Path) (name : OsText) : Path :=
  match path.fileName? with
  | some _ => (path.parent?.getD empty).join name
  | none => path.join name

end Path

end SingleFlight
