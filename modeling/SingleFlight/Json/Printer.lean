import SingleFlight.Json.Quoted
import SingleFlight.Json.Value
import SingleFlight.Text.Decimal

/-!
Writing JSON text, on one line or over several with two blanks of indentation a level.
-/

namespace SingleFlight.Json

open Text

/-- How the parts of lists and objects are set apart. -/
inductive Layout where
  | compact
  | indented

/-- What stands before an item that is nested to a depth. -/
def Layout.gap : Layout → Nat → List Char
  | .compact, _ => []
  | .indented, depth => '\n' :: List.replicate (2 * depth) ' '

def Layout.colon : Layout → List Char
  | .compact => [':']
  | .indented => [':', ' ']

mutual

def render (layout : Layout) (depth : Nat) : Json → List Char
  | .null => ['n', 'u', 'l', 'l']
  | .bool true => ['t', 'r', 'u', 'e']
  | .bool false => ['f', 'a', 'l', 's', 'e']
  | .number value => Decimal.integer value
  | .text value => quote value
  | .foreign => ['n', 'u', 'l', 'l']
  | .list [] => ['[', ']']
  | .list (first :: rest) =>
    '[' :: (layout.gap (depth + 1) ++ render layout (depth + 1) first ++ renderItems layout (depth + 1) rest ++
      layout.gap depth ++ [']'])
  | .object [] => ['\x7b', '\x7d']
  | .object ((key, first) :: rest) =>
    '\x7b' :: (layout.gap (depth + 1) ++ quote key ++ layout.colon ++ render layout (depth + 1) first ++
      renderFields layout (depth + 1) rest ++ layout.gap depth ++ ['\x7d'])

def renderItems (layout : Layout) (depth : Nat) : List Json → List Char
  | [] => []
  | item :: rest => ',' :: (layout.gap depth ++ render layout depth item ++ renderItems layout depth rest)

def renderFields (layout : Layout) (depth : Nat) : List (String × Json) → List Char
  | [] => []
  | (key, value) :: rest =>
    ',' :: (layout.gap depth ++ quote key ++ layout.colon ++ render layout depth value ++
      renderFields layout depth rest)

end

def compact (value : Json) : String := String.ofList (render .compact 0 value)

def indented (value : Json) : String := String.ofList (render .indented 0 value)

end SingleFlight.Json
