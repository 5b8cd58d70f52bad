import SingleFlight.Text.Ascii

/-!
Putting texts in place of others.
-/

namespace SingleFlight.Text

/-- Replaces in the rest of a text, onto what is done, which is kept last character first. Each round
takes at least one character of the rest if no marker is empty. -/
def replaceOnto (pairs : List (List Char × List Char)) (done : List Char) : Nat → List Char → List Char
  | 0, rest => done.reverse ++ rest
  | _ + 1, [] => done.reverse
  | rounds + 1, c :: rest =>
    match pairs.find? (fun pair => pair.1.isPrefixOf (c :: rest)) with
    | some (marker, value) => replaceOnto pairs (value.reverse ++ done) rounds ((c :: rest).drop marker.length)
    | none => replaceOnto pairs (c :: done) rounds rest

/-- Puts the second text of each pair in place of the first one, wherever that stands. -/
def replaceAll (pairs : List (List Char × List Char)) (chars : List Char) : List Char :=
  if pairs.isEmpty then chars else replaceOnto pairs [] (chars.length + 1) chars

end SingleFlight.Text
