import SingleFlight.Json.Token

/-!
Reading JSON text. The reader takes one token at a time and keeps the lists and objects that are
still open on a stack, so text nested to any depth is read.
-/

namespace SingleFlight.Json

open Text

/-- A list or an object that is still open, with what it holds so far, last first. -/
inductive Frame where
  | list (items : List Json)
  | object (fields : List (Option String × Json))
  | field (fields : List (Option String × Json)) (key : Option String)

/-- What a reader waits for. -/
inductive Stage where
  | item
  | itemOrEnd
  | key
  | keyOrEnd
  | colon (key : Option String)
  | complete (value : Json)

structure Reader where
  frames : List Frame
  stage : Stage

namespace Reader

def start : Reader := ⟨[], .item⟩

/-- An object one of whose keys spells no text can only be skipped. -/
def closeObject (fields : List (Option String × Json)) : Json :=
  match fields.reverse.mapM (fun field => field.1.map (·, field.2)) with
  | some named => .object named
  | none => .foreign

def textValue : Option String → Json
  | some value => .text value
  | none => .foreign

def item? (frames : List Frame) : Token → Option Reader
  | .value value => some ⟨frames, .complete value⟩
  | .text value => some ⟨frames, .complete (textValue value)⟩
  | .openList => some ⟨.list [] :: frames, .itemOrEnd⟩
  | .openObject => some ⟨.object [] :: frames, .keyOrEnd⟩
  | _ => none

def after? (frames : List Frame) (value : Json) : Token → Option Reader
  | .comma =>
    match frames with
    | .list items :: outer => some ⟨.list (value :: items) :: outer, .item⟩
    | .field fields key :: outer => some ⟨.object ((key, value) :: fields) :: outer, .key⟩
    | _ => none
  | .closeList =>
    match frames with
    | .list items :: outer => some ⟨outer, .complete (.list (value :: items).reverse)⟩
    | _ => none
  | .closeObject =>
    match frames with
    | .field fields key :: outer => some ⟨outer, .complete (closeObject ((key, value) :: fields))⟩
    | _ => none
  | _ => none

def step? (reader : Reader) (token : Token) : Option Reader :=
  match reader.stage, token with
  | .complete value, token => after? reader.frames value token
  | .item, token => item? reader.frames token
  | .itemOrEnd, .closeList =>
    match reader.frames with
    | .list items :: outer => some ⟨outer, .complete (.list items.reverse)⟩
    | _ => none
  | .itemOrEnd, token => item? reader.frames token
  | .keyOrEnd, .closeObject =>
    match reader.frames with
    | .object fields :: outer => some ⟨outer, .complete (closeObject fields)⟩
    | _ => none
  | .keyOrEnd, .text key => some ⟨reader.frames, .colon key⟩
  | .key, .text key => some ⟨reader.frames, .colon key⟩
  | .colon key, .colon =>
    match reader.frames with
    | .object fields :: outer => some ⟨.field fields key :: outer, .item⟩
    | _ => none
  | _, _ => none

def finish? (reader : Reader) : Option Json :=
  match reader.frames, reader.stage with
  | [], .complete value => some value
  | _, _ => none

end Reader

def ofTokens? (tokens : List Token) : Option Json :=
  (tokens.foldlM Reader.step? Reader.start).bind Reader.finish?

def ofGlyphs? (glyphs : List Glyph) : Option Json := (tokens? glyphs).bind ofTokens?

def ofChars? (chars : List Char) : Option Json := ofGlyphs? (chars.map some)

def ofText? (text : String) : Option Json := ofChars? text.toList

def ofBytes? (bytes : List Byte) : Option Json := ofGlyphs? (Utf8.decode bytes)

end SingleFlight.Json
