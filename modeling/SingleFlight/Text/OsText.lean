import SingleFlight.Text.Utf8

/-!
Texts of the operating system: paths, names of files, and what the environment says. They are sequences of
bytes, most of which spell a text in UTF-8.
-/

namespace SingleFlight.Text

/-- A text of the operating system, which need not be UTF-8. -/
abbrev OsText := List Byte

namespace OsText

instance : Coe String OsText := ⟨Utf8.ofString⟩

/-- The text that is spelled, if all of it is UTF-8. -/
def text? (spelled : OsText) : Option String := (Utf8.strict? spelled).map String.ofList

/-- What is spelled, with U+FFFD wherever it is no UTF-8. -/
def shown (spelled : OsText) : String := String.ofList (Utf8.lossy spelled)

def isText (spelled : OsText) : Bool := spelled.text?.isSome

def slash : Byte := 0x2F

/-- The name by which a directory knows itself. -/
def dot : OsText := [0x2E]

/-- The name by which a directory knows the one that it is in. -/
def dots : OsText := [0x2E, 0x2E]

@[simp]
theorem dots_ne_dot : dots ≠ dot := by decide

def isRooted (spelled : OsText) : Bool := spelled.head? = some slash

end OsText

end SingleFlight.Text
