import SingleFlight.Command.Run
import SingleFlight.Json.Reader

/-!
The command-line program. The machine that the command works with is described in JSON on standard
input; what the command prints and complains of goes to the usual places.
-/

namespace SingleFlight.Command

/-- Reads lines up to the end of the input. -/
partial def readAll (input : IO.FS.Stream) (read : String) : IO String := do
  let line ← input.getLine
  if line.isEmpty then return read else readAll input (read ++ line)

/-- A description tells, besides all else, the address of the server and what the clock shows. -/
def described? (json : Json) : Option Machine := do
  Machine.ofJson? (← (json.field? "server").bind Json.text?) (← (json.field? "now").bind Json.time?) json

def execute (arguments : List String) : IO UInt32 := do
  let description ← readAll (← IO.getStdin) ""
  match (Json.ofText? description).bind described? with
  | none =>
    IO.eprintln "opsgate: the description of the machine cannot be read"
    return UInt32.ofNat exitFailed
  | some machine =>
    let (result, _) := run arguments machine
    if let some output := result.output then IO.println output
    if let some complaint := result.complaint then IO.eprintln complaint
    return UInt32.ofNat result.exitCode

end SingleFlight.Command

def main (arguments : List String) : IO UInt32 := SingleFlight.Command.execute arguments
