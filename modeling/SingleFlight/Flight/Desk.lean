import SingleFlight.Catalog
import SingleFlight.Flight.Execution
import SingleFlight.Flight.Outcome
import SingleFlight.Ledger.Store
import SingleFlight.Lock.Table

/-!
The desk: invocations from the call to the outcome, in steps between which those of other invocations
may come. A run that is admitted goes on to its end, whether or not its caller still waits: the
gateway answers, the record is written, the lock is let go, and then the caller is told.
-/

namespace SingleFlight

open Gateway Ledger Time

/-- How far a flight has come. -/
inductive Stage where
  | calling
  | answered (response : Response)
  | recorded (record : RunRecord) (response : Response)
  deriving DecidableEq

/-- An execution under way. -/
structure Flight where
  number : Nat
  execution : Execution
  stage : Stage
  isAwaited : Bool
  deriving DecidableEq

/-- What all invocations share: locks, the state the ledger is kept in, and the flights under way, each
under a number that no other one is given. -/
structure Desk (σ : Type) where
  locks : LockTable
  ledger : σ
  flights : List Flight
  next : Nat

/-- By what rules a desk works. -/
structure Coordinator (σ : Type) where
  catalog : Catalog
  policy : LockPolicy
  store : RunStore σ

/-- A step of an invocation. The clock, the gateway and chance are part of the step. -/
inductive Event where
  | call (project : Project) (action : Action) (now : Timestamp) (suffix : UInt16)
  | answer (number : Nat) (response : Response)
  | record (number : Nat) (finishedAt : Timestamp) (nonce : UInt32)
  | leave (number : Nat)
  | abandon (number : Nat)
  deriving DecidableEq

/-- What is seen of a step from outside. -/
inductive Notice where
  | refused (fault : Fault)
  | brokenOff
  | busy (busy : Busy)
  | sent (number : Nat) (request : Request)
  | ended (outcome : Outcome)
  | released (action : Action)
  | nothing
  deriving DecidableEq

namespace Desk

variable {σ : Type}

def opened (ledger : σ) : Desk σ := ⟨LockTable.empty, ledger, [], 0⟩

def find? (desk : Desk σ) (number : Nat) : Option Flight := desk.flights.find? (·.number == number)

/-- The desk with another flight in place of the one of the same number. -/
def replace (desk : Desk σ) (flight : Flight) : Desk σ :=
  { desk with flights := desk.flights.map fun other => if other.number = flight.number then flight else other }

def remove (desk : Desk σ) (number : Nat) : Desk σ :=
  { desk with flights := desk.flights.filter fun flight => !(flight.number == number) }

/-- Lets an execution take off. -/
def launch (desk : Desk σ) (execution : Execution) : Desk σ :=
  { desk with flights := desk.flights ++ [⟨desk.next, execution, .calling, true⟩], next := desk.next + 1 }

end Desk

namespace Coordinator

variable {σ : Type}

/-- Takes a call: what is not in the catalog is refused before any lock is asked for. -/
def call (coordinator : Coordinator σ) (project : Project) (action : Action) (now : Timestamp) (suffix : UInt16)
    (desk : Desk σ) : Notice × Desk σ :=
  match coordinator.catalog.resolve project action with
  | .error fault => (.refused fault, desk)
  | .ok entry =>
    match LockTable.acquire coordinator.policy desk.locks action now suffix with
    | (.brokenOff, locks) => (.brokenOff, { desk with locks })
    | (.refused holder, locks) => (.busy ⟨action, holder.runId, holder.acquiredAt⟩, { desk with locks })
    | (.granted runId startedAt, locks) =>
      let execution : Execution := ⟨project, action, entry.target, runId, startedAt⟩
      (.sent desk.next execution.request, { desk with locks }.launch execution)

def answer (flight : Flight) (response : Response) (desk : Desk σ) : Notice × Desk σ :=
  match flight.stage with
  | .calling => (.nothing, desk.replace { flight with stage := .answered response })
  | _ => (.nothing, desk)

/-- Writes the record of a flight. It lands whatever comes of the writing. -/
def record (coordinator : Coordinator σ) (flight : Flight) (finishedAt : Timestamp) (nonce : UInt32)
    (desk : Desk σ) : Notice × Desk σ :=
  match flight.stage with
  | .answered response =>
    let record := flight.execution.record response finishedAt
    match coordinator.store.write nonce record desk.ledger with
    | (_, ledger) => (.nothing, { desk with ledger }.replace { flight with stage := .recorded record response })
  | _ => (.nothing, desk)

/-- Lets go of the lock of a flight, unless the lock has passed to another run, and tells the caller. -/
def leave (flight : Flight) (desk : Desk σ) : Notice × Desk σ :=
  match flight.stage with
  | .recorded record response =>
    let action := flight.execution.action
    let left := { desk with locks := (desk.locks.releaseRun action flight.execution.runId).2 }.remove flight.number
    (if flight.isAwaited then .ended (Outcome.ofRecord record response) else .released action, left)
  | _ => (.nothing, desk)

def abandon (flight : Flight) (desk : Desk σ) : Notice × Desk σ :=
  (.nothing, desk.replace { flight with isAwaited := false })

/-- Does something with the flight of a number, if it is still under way. -/
def withFlight (number : Nat) (desk : Desk σ) (work : Flight → Desk σ → Notice × Desk σ) : Notice × Desk σ :=
  match desk.find? number with
  | some flight => work flight desk
  | none => (.nothing, desk)

def step (coordinator : Coordinator σ) (desk : Desk σ) : Event → Notice × Desk σ
  | .call project action now suffix => coordinator.call project action now suffix desk
  | .answer number response => withFlight number desk fun flight => answer flight response
  | .record number finishedAt nonce => withFlight number desk fun flight => coordinator.record flight finishedAt nonce
  | .leave number => withFlight number desk leave
  | .abandon number => withFlight number desk abandon

/-- Takes steps one after the other. -/
def run (coordinator : Coordinator σ) (desk : Desk σ) : List Event → List Notice × Desk σ
  | [] => ([], desk)
  | event :: rest =>
    match coordinator.step desk event with
    | (notice, after) =>
      match coordinator.run after rest with
      | (notices, last) => (notice :: notices, last)

/-- Takes a flight that the gateway answered to its end. -/
def conclude (coordinator : Coordinator σ) (number : Nat) (response : Response) (finishedAt : Timestamp)
    (nonce : UInt32) (desk : Desk σ) : Notice × Desk σ :=
  match coordinator.run desk [.answer number response, .record number finishedAt nonce] with
  | (_, recorded) => coordinator.step recorded (.leave number)

/-- Takes an invocation from its call to its end, with nothing in between but the gateway, which works
on a state of type `γ`. -/
def invoke {γ : Type} (coordinator : Coordinator σ) (gateway : Request → γ → Response × γ) (project : Project)
    (action : Action) (now finishedAt : Timestamp) (suffix : UInt16) (nonce : UInt32) (desk : Desk σ) (state : γ) :
    Notice × Desk σ × γ :=
  match coordinator.step desk (.call project action now suffix) with
  | (.sent number request, called) =>
    match gateway request state with
    | (response, after) =>
      match coordinator.conclude number response finishedAt nonce called with
      | (notice, concluded) => (notice, concluded, after)
  | (notice, called) => (notice, called, state)

end Coordinator

end SingleFlight
