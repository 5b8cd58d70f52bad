import SingleFlight.Text.Ascii

/-!
Reading one level of a command line: options that take a value, operands, and the name of a command
with which the next level starts. An option counts once the next one or an operand is met, or else once
all deeper levels have been read.
-/

namespace SingleFlight.Command

open Text

/-- Why the reading of a command line ends before its end. -/
inductive Interruption where
  | help
  | version
  | misuse
  deriving DecidableEq

/-- What a level of the command line understands. -/
structure Level where
  options : List String
  operands : Nat
  commands : List String
  tellsVersion : Bool
  deriving DecidableEq

/-- What was read of a level: options that count, an option that does not count yet and may still lack
its value, and operands in their order. -/
structure Reading where
  values : List (String × String)
  pending : Option (String × Option String)
  operands : List String
  deriving DecidableEq

namespace Reading

def start : Reading := ⟨[], none, []⟩

def find? (reading : Reading) (option : String) : Option String :=
  (reading.values.find? (·.1 == option)).map (·.2)

/-- Whether an option still lacks its value. -/
def awaitsValue (reading : Reading) : Bool := reading.pending.any (·.2.isNone)

/-- Takes an option down; no option may be given twice at one level, or a value it does not take. -/
def take (accepts : String → String → Bool) (option value : String) (reading : Reading) :
    Except Interruption Reading :=
  if (reading.find? option).isSome || !accepts option value then .error .misuse
  else .ok { reading with values := reading.values ++ [(option, value)] }

/-- Makes a pending option count. -/
def settle (accepts : String → String → Bool) (reading : Reading) : Except Interruption Reading :=
  match reading.pending with
  | none => .ok reading
  | some (_, none) => .error .misuse
  | some (option, some value) => { reading with pending := none }.take accepts option value

end Reading

/-- A command, and the arguments behind it. -/
abbrev Next := Option (String × List String)

namespace Level

/-- Ends the reading, unless what came before was misuse. -/
def interrupt (accepts : String → String → Bool) (reading : Reading) (interruption : Interruption) :
    Except Interruption Reading :=
  match reading.settle accepts with
  | .ok _ => .error interruption
  | .error refusal => .error refusal

/-- Reads an argument that two hyphens start. -/
def readLong (level : Level) (accepts : String → String → Bool) (reading : Reading) (name : String)
    (value : Option String) : Except Interruption Reading :=
  if level.options.contains name then do
    let settled ← reading.settle accepts
    match value with
    | some value => settled.take accepts name value
    | none => return { settled with pending := some (name, none) }
  else if value.isSome then .error .misuse
  else if name = "help" then interrupt accepts reading .help
  else if name = "version" && level.tellsVersion then interrupt accepts reading .version
  else .error .misuse

/-- Reads an argument that one hyphen starts. -/
def readShort (level : Level) (accepts : String → String → Bool) (reading : Reading) (letter : Char) :
    Except Interruption Reading :=
  if letter = 'h' then interrupt accepts reading .help
  else if letter = 'V' && level.tellsVersion then interrupt accepts reading .version
  else .error .misuse

def readOperand (level : Level) (accepts : String → String → Bool) (reading : Reading) (operand : String) :
    Except Interruption Reading :=
  if reading.operands.length < level.operands then do
    let settled ← reading.settle accepts
    return { settled with operands := settled.operands ++ [operand] }
  else .error .misuse

/-- The name of a long option, and the value behind an equals sign. -/
def splitLong (argument : List Char) : String × Option String :=
  match cutAt (· = '=') argument with
  | (name, value) => (String.ofList name, value.map String.ofList)

/-- Reads a level up to the command that ends it. Behind two hyphens alone there are only operands. -/
def read (level : Level) (accepts : String → String → Bool) :
    List String → Reading → Except Interruption (Reading × Next)
  | [], reading => .ok (reading, none)
  | argument :: rest, reading =>
    if !reading.awaitsValue && level.commands.contains argument then .ok (reading, some (argument, rest))
    else match argument.toList with
      | ['-', '-'] => do return (← rest.foldlM (fun reading operand => level.readOperand accepts reading operand) reading, none)
      | '-' :: '-' :: long => do
        level.read accepts rest (← level.readLong accepts reading (splitLong long).1 (splitLong long).2)
      | '-' :: letter :: _ => do level.read accepts rest (← level.readShort accepts reading letter)
      | _ =>
        match reading.pending with
        | some (option, none) => level.read accepts rest { reading with pending := some (option, some argument) }
        | _ => do level.read accepts rest (← level.readOperand accepts reading argument)

end Level

end SingleFlight.Command
