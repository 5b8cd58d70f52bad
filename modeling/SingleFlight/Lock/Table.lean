import SingleFlight.Lock.Policy

/-!
The lock table: at most one hold for each action. Whoever is refused learns which run to join.
-/

namespace SingleFlight

open Time

/-- A lock that is held: by which run, and since when. -/
structure Hold where
  runId : RunId
  acquiredAt : Timestamp
  deriving DecidableEq

def Hold.toJson (action : Action) (hold : Hold) : Json :=
  .object [("action", .text action), ("run_id", .text hold.runId.text), ("acquired_at", .ofTime hold.acquiredAt)]

abbrev LockTable := Dictionary Hold

/-- The answer to a request for a lock. A clock that shows no time in UTC breaks the request off. -/
inductive Admission where
  | granted (runId : RunId) (acquiredAt : Timestamp)
  | refused (holder : Hold)
  | brokenOff
  deriving DecidableEq

namespace LockTable

def empty : LockTable := Dictionary.empty

/-- A hold is stale once it is older, in whole milliseconds, than the policy allows. -/
def isStale (policy : LockPolicy) (hold : Hold) (now : Timestamp) : Bool :=
  (policy.staleAfterMilliseconds : Int) < now.millisecondsSince hold.acquiredAt

def grant (table : LockTable) (action : Action) (now : Timestamp) (suffix : UInt16) : Admission × LockTable :=
  match RunId.mint? now suffix with
  | none => (.brokenOff, table)
  | some runId => (.granted runId now, table.insert action ⟨runId, now⟩)

/-- Asks for the lock of an action. An exempt action is admitted beside its holder and leaves the hold
as it is; a stale hold is taken away first. -/
def acquire (policy : LockPolicy) (table : LockTable) (action : Action) (now : Timestamp) (suffix : UInt16) :
    Admission × LockTable :=
  match table.find? action with
  | none => grant table action now suffix
  | some hold =>
    if policy.isExempt action then
      match RunId.mint? now suffix with
      | none => (.brokenOff, table)
      | some runId => (.granted runId now, table)
    else if isStale policy hold now then grant (table.erase action) action now suffix
    else (.refused hold, table)

/-- Lets go of the lock of an action, whoever holds it. -/
def release (table : LockTable) (action : Action) : LockTable := table.erase action

def isHeldBy (table : LockTable) (action : Action) (runId : RunId) : Bool :=
  (table.find? action).any (·.runId = runId)

/-- Lets go of the lock of an action if a given run holds it, and says whether it did. -/
def releaseRun (table : LockTable) (action : Action) (runId : RunId) : Bool × LockTable :=
  if table.isHeldBy action runId then (true, table.erase action) else (false, table)

/-- All holds, in the order of their actions. -/
def held (table : LockTable) : List (Action × Hold) := table.entries

end LockTable

end SingleFlight
