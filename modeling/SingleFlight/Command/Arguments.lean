import SingleFlight.Command.Options
import SingleFlight.Path
import SingleFlight.Run.Record
import SingleFlight.Text.Decimal

/-!
The command line: which commands there are, and what each is told.
-/

namespace SingleFlight.Command

open Text

inductive Task where
  | run (project : Project) (action : Action)
  | list (limit : Nat) (project : Option Project) (beginning : Option String)
  | lookUp (runId : String)
  | status (family : String)
  | health
  deriving DecidableEq

structure Arguments where
  config : Option Path
  task : Task
  deriving DecidableEq

def defaultLimit : Nat := 20

/-- A number of 64 bits, with or without a plus sign. -/
def limit? (text : String) : Option Nat :=
  let digits := match text.toList with
    | '+' :: digits => digits
    | digits => digits
  (Decimal.natural? digits).filter (· < Nat.pow 2 64)

/-- Whether an option takes a value. -/
def accepts (option value : String) : Bool :=
  if option = "config" then !value.isEmpty
  else if option = "limit" then (limit? value).isSome
  else true

def helpCommand : String := "help"

def topCommands : List String := ["run", "runs", "status", "health", helpCommand]

def ledgerCommands : List String := ["list", "show", helpCommand]

def topLevel : Level := ⟨["config"], 0, topCommands, true⟩

def ledgerLevel : Level := ⟨["config"], 0, ledgerCommands, false⟩

/-- The level of a command that no other command follows. -/
def lastLevel (options : List String) (operands : Nat) : Level := ⟨"config" :: options, operands, [], false⟩

/-- Whether there is help on the commands named, each of which follows the one before. -/
def helps (isLedger : Bool) : List String → Bool
  | [] => true
  | [name] => if isLedger then ledgerCommands.contains name else topCommands.contains name
  | name :: rest => !isLedger && name = "runs" && helps true rest

def help (isLedger : Bool) (names : List String) : Interruption := if helps isLedger names then .help else .misuse

/-- What a level was told, and the configuration that was named there or deeper. -/
structure Told (α : Type) where
  config : Option Path
  value : α

/-- Reads the last level of a command line. -/
def readLast {α : Type} (options : List String) (operands : Nat) (arguments : List String)
    (tell : Reading → Option α) : Except Interruption (Told α) := do
  let (reading, _) ← (lastLevel options operands).read accepts arguments Reading.start
  let settled ← reading.settle accepts
  match tell settled with
  | some value => return ⟨(settled.find? "config").map Path.mk, value⟩
  | none => .error .misuse

/-- Reads a level that is followed by another one, which counts where both say something. -/
def readOuter {α : Type} (level : Level) (arguments : List String)
    (inner : String → List String → Except Interruption (Told α)) : Except Interruption (Told α) := do
  match ← level.read accepts arguments Reading.start with
  | (_, none) => .error .misuse
  | (reading, some (command, rest)) =>
    let told ← inner command rest
    let settled ← reading.settle accepts
    return { told with config := told.config.or ((settled.find? "config").map Path.mk) }

def runTask? (reading : Reading) : Option Task :=
  match reading.find? "project", reading.operands with
  | some project, [action] => some (.run project action)
  | _, _ => none

def listTask? (reading : Reading) : Option Task :=
  some (.list (((reading.find? "limit").bind limit?).getD defaultLimit) (reading.find? "project") (reading.find? "prefix"))

def operandTask? (task : String → Task) (reading : Reading) : Option Task :=
  match reading.operands with
  | [operand] => some (task operand)
  | _ => none

def readLedgerCommand (command : String) (arguments : List String) : Except Interruption (Told Task) :=
  if command = "list" then readLast ["limit", "project", "prefix"] 0 arguments listTask?
  else if command = "show" then readLast [] 1 arguments (operandTask? .lookUp)
  else .error (help true arguments)

def readCommand (command : String) (arguments : List String) : Except Interruption (Told Task) :=
  if command = "run" then readLast ["project"] 1 arguments runTask?
  else if command = "runs" then readOuter ledgerLevel arguments readLedgerCommand
  else if command = "status" then readLast [] 1 arguments (operandTask? .status)
  else if command = "health" then readLast [] 0 arguments fun _ => some .health
  else .error (help false arguments)

/-- Reads a command line, without the name of the program. -/
def Arguments.read (arguments : List String) : Except Interruption Arguments :=
  (readOuter topLevel arguments readCommand).map fun told => ⟨told.config, told.value⟩

end SingleFlight.Command
