import SingleFlight.Text.Ascii
import SingleFlight.Text.Blank

/-!
The lines of a text.
-/

namespace SingleFlight.Text

/-- A line without the carriage return at its end. -/
def withoutReturn (line : List Char) : List Char := if line.getLast? = some '\r' then line.dropLast else line

/-- The lines of a text. A line ends with a line feed, or a carriage return and a line feed; what stands
behind the last line feed is a line if there is anything. -/
def lines (chars : List Char) : List (List Char) :=
  let pieces := split (· = '\n') chars
  pieces.dropLast.map withoutReturn ++ pieces.getLast?.toList.filter (fun last => !last.isEmpty)

/-- The last line that is not blank, without blanks around it. -/
def lastLine? (text : String) : Option String :=
  (((lines text.toList).reverse.map trimChars).find? (fun line => !line.isEmpty)).map String.ofList

end SingleFlight.Text
