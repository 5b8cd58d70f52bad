import Mathlib.Tactic.Common
import SingleFlight.Lock.Table

/-!
What a request for a lock can come to. Each of the three answers is told apart by what the table held,
and says what the table holds afterwards.
-/

namespace SingleFlight.LockTable

open Time

variable {policy : LockPolicy} {table locks : LockTable} {action : Action} {now : Timestamp} {suffix : UInt16}

/-- Whether a hold may be taken away for a request at a time. -/
def mayYield (policy : LockPolicy) (action : Action) (hold : Hold) (now : Timestamp) : Bool :=
  !policy.isExempt action && isStale policy hold now

theorem isStale_iff {hold : Hold} :
    isStale policy hold now = true ↔ (policy.staleAfterMilliseconds : Int) < now.millisecondsSince hold.acquiredAt :=
  decide_eq_true_iff

theorem mayYield_iff {hold : Hold} :
    mayYield policy action hold now = true ↔ policy.isExempt action = false ∧ isStale policy hold now = true := by
  simp [mayYield]

/-- A lock is granted to an exempt action beside its holder, or where nobody holds it any longer. -/
inductive Granted (policy : LockPolicy) (table : LockTable) (action : Action) (now : Timestamp) (runId : RunId)
    (locks : LockTable) : Prop where
  | beside (hold : Hold) (held : table.find? action = some hold) (exempt : policy.isExempt action = true)
      (same : locks = table)
  | alone (free : ∀ hold, table.find? action = some hold → mayYield policy action hold now = true)
      (after : ∀ other, locks.find? other = if other = action then some ⟨runId, now⟩ else table.find? other)

theorem grant_granted {runId : RunId} {startedAt : Timestamp}
    (granted : grant table action now suffix = (.granted runId startedAt, locks)) :
    startedAt = now ∧ RunId.mint? now suffix = some runId ∧ locks = table.insert action ⟨runId, now⟩ := by
  unfold grant at granted
  split at granted
  next => cases granted
  next minted =>
    cases granted
    exact ⟨rfl, minted, rfl⟩

theorem grant_brokenOff (broken : grant table action now suffix = (.brokenOff, locks)) :
    RunId.mint? now suffix = none ∧ locks = table := by
  unfold grant at broken
  split at broken
  next unminted =>
    cases broken
    exact ⟨unminted, rfl⟩
  next => cases broken

theorem grant_not_refused {hold : Hold} (refused : grant table action now suffix = (.refused hold, locks)) : False := by
  unfold grant at refused
  split at refused <;> cases refused

theorem acquire_granted {runId : RunId} {startedAt : Timestamp}
    (granted : acquire policy table action now suffix = (.granted runId startedAt, locks)) :
    startedAt = now ∧ RunId.mint? now suffix = some runId ∧ Granted policy table action now runId locks := by
  unfold acquire at granted
  split at granted
  next absent =>
    obtain ⟨start, minted, rfl⟩ := grant_granted granted
    exact ⟨start, minted, .alone (by simp [absent]) (by simp)⟩
  next hold held =>
    split at granted
    next exempt =>
      split at granted
      next => cases granted
      next minted =>
        cases granted
        exact ⟨rfl, minted, .beside hold held exempt rfl⟩
    next notExempt =>
      split at granted
      next stale =>
        obtain ⟨start, minted, rfl⟩ := grant_granted granted
        refine ⟨start, minted, .alone ?_ ?_⟩
        · intro other found
          rw [held] at found
          cases found
          simp [mayYield, notExempt, stale]
        · intro other
          by_cases same : other = action <;> simp [same]
      next => cases granted

/-- A caller is refused in favour of a holder that is not stale, and nothing changes. -/
theorem acquire_refused {hold : Hold} (refused : acquire policy table action now suffix = (.refused hold, locks)) :
    locks = table ∧ table.find? action = some hold ∧ policy.isExempt action = false ∧ isStale policy hold now = false := by
  unfold acquire at refused
  split at refused
  next => exact (grant_not_refused refused).elim
  next found held =>
    split at refused
    next =>
      split at refused <;> cases refused
    next notExempt =>
      split at refused
      next => exact (grant_not_refused refused).elim
      next notStale =>
        cases refused
        exact ⟨rfl, held, by simpa using notExempt, by simpa using notStale⟩

theorem acquire_of_fresh_hold {hold : Hold} (held : table.find? action = some hold)
    (notExempt : policy.isExempt action = false) (notStale : isStale policy hold now = false) :
    acquire policy table action now suffix = (.refused hold, table) := by
  simp [acquire, held, notExempt, notStale]

/-- A request that is broken off may still have taken a stale hold away. -/
theorem acquire_brokenOff (broken : acquire policy table action now suffix = (.brokenOff, locks)) :
    RunId.mint? now suffix = none ∧
      (locks = table ∨ ∃ hold, table.find? action = some hold ∧ mayYield policy action hold now = true ∧
        locks = table.erase action) := by
  unfold acquire at broken
  split at broken
  next =>
    obtain ⟨unminted, same⟩ := grant_brokenOff broken
    exact ⟨unminted, .inl same⟩
  next hold held =>
    split at broken
    next =>
      split at broken
      next unminted =>
        cases broken
        exact ⟨unminted, .inl rfl⟩
      next => cases broken
    next notExempt =>
      split at broken
      next stale =>
        obtain ⟨unminted, same⟩ := grant_brokenOff broken
        exact ⟨unminted, .inr ⟨hold, held, by simp [mayYield, notExempt, stale], same⟩⟩
      next => cases broken

/-- A request that is broken off takes away the hold that had to yield to it, and no other. -/
theorem find?_acquire_brokenOff (broken : acquire policy table action now suffix = (.brokenOff, locks)) (other : Action) :
    locks.find? other =
      if other = action then (table.find? action).filter fun hold => !mayYield policy action hold now
      else table.find? other := by
  unfold acquire at broken
  split at broken
  next absent =>
    obtain ⟨_, rfl⟩ := grant_brokenOff broken
    by_cases same : other = action <;> simp [same, absent]
  next hold held =>
    split at broken
    next exempt =>
      split at broken
      next =>
        cases broken
        by_cases same : other = action <;> simp [same, held, mayYield, exempt, Option.filter_some]
      next => cases broken
    next notExempt =>
      split at broken
      next stale =>
        obtain ⟨_, rfl⟩ := grant_brokenOff broken
        by_cases same : other = action <;> simp [same, held, mayYield, notExempt, stale, Option.filter_some]
      next => cases broken

/-- Letting go of a lock leaves every hold of another run or another action as it is. -/
theorem find?_releaseRun (table : LockTable) (action other : Action) (runId : RunId) :
    (table.releaseRun action runId).2.find? other =
      if other = action ∧ table.isHeldBy action runId = true then none else table.find? other := by
  unfold releaseRun
  split
  next held => by_cases same : other = action <;> simp [same, held]
  next notHeld => simp [notHeld]

theorem isHeldBy_iff (table : LockTable) (action : Action) (runId : RunId) :
    table.isHeldBy action runId = true ↔ ∃ hold, table.find? action = some hold ∧ hold.runId = runId := by
  simp [isHeldBy, Option.any_eq_true]

end SingleFlight.LockTable
