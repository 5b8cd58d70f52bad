import SingleFlight.Dictionary
import SingleFlight.Run.Record

/-!
The policy of the lock table: which actions may overlap with themselves, and after how long a lock
that was never released is taken away.
-/

namespace SingleFlight

structure LockPolicy where
  exempt : NameSet
  staleAfterMilliseconds : Nat

namespace LockPolicy

def defaultStaleAfterSeconds : Nat := 300

/-- Actions that only read. -/
def defaultExempt : List Action := ["health_check", "status", "logs"]

def standard : LockPolicy := ⟨NameSet.ofList defaultExempt, defaultStaleAfterSeconds * 1000⟩

def isExempt (policy : LockPolicy) (action : Action) : Bool := policy.exempt.contains action

end LockPolicy

end SingleFlight
