import SingleFlight.Proofs.Accounts
import SingleFlight.Proofs.Landing
import SingleFlight.Proofs.Minting

/-!
No lock outlasts its run. Whatever the clock shows, whatever digits chance puts at the ends of the ids, whatever
comes of the gateway and of the ledger, and whether or not the caller waits: an entry of the table is that of an
execution under way. Main statement: this holds at all times, and so nobody is kept out once nobody flies.
-/

namespace SingleFlight

open Gateway Ledger Time

variable {σ : Type}

namespace LockTable

/-- Where nobody holds a lock, whoever asks for one gets it, if an id can be minted from the time. -/
theorem acquire_empty {now : Timestamp} (formed : now.utcForm?.isSome = true) (policy : LockPolicy) (action : Action)
    (suffix : UInt16) :
    ∃ runId, acquire policy empty action now suffix = (.granted runId now, empty.insert action ⟨runId, now⟩) := by
  have asked : acquire policy empty action now suffix = grant empty action now suffix := rfl
  rw [← RunId.isSome_mint? now suffix] at formed
  obtain ⟨runId, minted⟩ := Option.isSome_iff_exists.mp formed
  refine ⟨runId, ?_⟩
  rw [asked, grant, minted]

/-- Where nobody holds a lock, nobody is told to join a run. -/
theorem acquire_empty_ne_refused (policy : LockPolicy) (action : Action) (now : Timestamp) (suffix : UInt16) (hold : Hold) :
    (acquire policy empty action now suffix).1 ≠ .refused hold := by
  intro refused
  cases answered : acquire policy empty action now suffix with | mk admission locks => ?_
  rw [answered] at refused
  cases refused
  obtain ⟨_, held, _⟩ := acquire_refused answered
  cases held

/-- A table without entries is the empty one. -/
theorem eq_empty {table : LockTable} (nothing : table.held = []) : table = empty := by
  obtain ⟨entries, sorted⟩ := table
  cases nothing
  rfl

theorem not_isHeldBy_releaseRun (table : LockTable) (action : Action) (runId : RunId) :
    (table.releaseRun action runId).2.isHeldBy action runId = false := by
  unfold releaseRun
  split
  next => simp [isHeldBy]
  next other => simpa using other

end LockTable

/-- Whether a caller is told that no run was set off for it: the catalog does not list what it asked for, or it is
to join the run under way. -/
def Notice.IsTurnedAway (notice : Notice) : Prop := (∃ busy, notice = .busy busy) ∨ ∃ fault, notice = .refused fault

namespace Coordinator

variable {coordinator : Coordinator σ} {desk after : Desk σ}

/-- Only those who call are turned away. -/
theorem Move.call_of_turnedAway {event : Event} {notice : Notice} (away : notice.IsTurnedAway)
    (move : Move coordinator desk event notice after) : ∃ project action now suffix, event = .call project action now suffix := by
  cases move with
  | refused | busy => exact ⟨_, _, _, _, rfl⟩
  | left found stage told =>
    subst told
    unfold Notice.IsTurnedAway at away
    split at away <;> simp at away
  | _ => simp [Notice.IsTurnedAway] at away

/-- Whoever is turned away has made no request of the gateway, and finds everything as it was. -/
theorem invoke_of_turnedAway {γ : Type} {gateway : Request → γ → Response × γ} {project : Project} {action : Action}
    {now finishedAt : Timestamp} {suffix : UInt16} {nonce : UInt32} {state : γ}
    (away : (coordinator.invoke gateway project action now finishedAt suffix nonce desk state).1.IsTurnedAway) :
    (coordinator.invoke gateway project action now finishedAt suffix nonce desk state).2 = (desk, state) := by
  have move := step_move coordinator desk (.call project action now suffix)
  unfold invoke at away ⊢
  generalize coordinator.step desk (.call project action now suffix) = called at away move ⊢
  obtain ⟨notice, afterCall⟩ := called
  cases notice with
  | sent number request =>
    -- A request was made, so the last that is seen is a departure, and a departure turns nobody away.
    have left := (step_move coordinator _ (.leave number)).call_of_turnedAway away
    obtain ⟨_, _, _, _, isCall⟩ := left
    cases isCall
  | refused | busy => exact congrArg (·, state) (move.same_of_refused away)
  | brokenOff | ended | released | nothing => simp [Notice.IsTurnedAway] at away

/-- What is true of the locks at all times. -/
structure LetsGo (coordinator : Coordinator σ) (desk : Desk σ) : Prop where
  /-- An entry of the table is that of an execution of this action which is under way under this id. -/
  owned : ∀ action hold, (action, hold) ∈ desk.locks.held → ∃ flight ∈ desk.flights,
    flight.execution.action = action ∧ flight.execution.runId = hold.runId ∧ flight.execution.startedAt = hold.acquiredAt
  /-- An execution whose record was written, or could not be, ends when it leaves, and leaves no entry of its run. -/
  ended : ∀ flight ∈ desk.flights, flight.stage.isRecorded = true →
    (∀ other ∈ (coordinator.step desk (.leave flight.number)).2.flights, other.number ≠ flight.number) ∧
    (coordinator.step desk (.leave flight.number)).2.locks.isHeldBy flight.execution.action flight.execution.runId = false
  /-- An execution that the gateway answers, whatever the answer is and whatever comes of the record, is taken
  to its end: it is gone with the entry of its run, and all others are still under way. -/
  concluded : ∀ flight ∈ desk.flights, flight.stage = .calling → ∀ response finishedAt nonce,
    (coordinator.conclude flight.number response finishedAt nonce desk).2.roster =
      desk.roster.filter (fun entry => !(entry.1 == flight.number)) ∧
    (coordinator.conclude flight.number response finishedAt nonce desk).2.locks.isHeldBy flight.execution.action
      flight.execution.runId = false
  vacant : desk.flights = [] → desk.locks = LockTable.empty
  /-- When nobody flies, nobody is kept out by a lock, whatever the clock shows. -/
  unhindered : desk.flights = [] → ∀ action now suffix hold,
    (LockTable.acquire coordinator.policy desk.locks action now suffix).1 ≠ .refused hold
  /-- When nobody flies, whoever asks for a lock gets it, by every clock that is set to UTC, and by every other whose
  time has a UTC form. -/
  admitted : desk.flights = [] → ∀ action now suffix, now.display.offset = 0 ∨ now.utcForm?.isSome = true →
    ∃ runId, LockTable.acquire coordinator.policy desk.locks action now suffix =
      (.granted runId now, LockTable.empty.insert action ⟨runId, now⟩)
  /-- Whoever is turned away leaves locks, ledger and flights as they are. -/
  unmoved : ∀ event, (coordinator.step desk event).1.IsTurnedAway → (coordinator.step desk event).2 = desk
  /-- Nor does the gateway hear of it. -/
  unheard : ∀ (γ : Type) (gateway : Request → γ → Response × γ) project action now finishedAt suffix nonce state,
    (coordinator.invoke gateway project action now finishedAt suffix nonce desk state).1.IsTurnedAway →
    (coordinator.invoke gateway project action now finishedAt suffix nonce desk state).2 = (desk, state)

/-- However calls, answers, records, departures and callers who do not wait are mixed, and whatever the clock, chance,
the gateway and the ledger do: a lock is held by an execution under way, or by nobody. -/
theorem locks_let_go (coordinator : Coordinator σ) (ledger : σ) (events : List Event) :
    coordinator.LetsGo (coordinator.run (Desk.opened ledger) events).2 := by
  have orderly := orderly_run coordinator (Desk.opened ledger) events (Desk.orderly_opened ledger)
  have backed := backed_run coordinator (Desk.opened ledger) events (Desk.orderly_opened ledger) (backed_opened ledger)
  generalize (coordinator.run (Desk.opened ledger) events).2 = desk at orderly backed ⊢
  have owned (action : Action) (hold : Hold) (held : (action, hold) ∈ desk.locks.held) :
      ∃ flight ∈ desk.flights, flight.execution.action = action ∧ flight.execution.runId = hold.runId ∧
        flight.execution.startedAt = hold.acquiredAt := by
    obtain ⟨entry, entryIn, sameAction, sameHold⟩ := backed action hold (Dictionary.mem_entries.mp held)
    obtain ⟨flight, flightIn, rfl⟩ := Desk.mem_roster.mp entryIn
    exact ⟨flight, flightIn, sameAction, congrArg Hold.runId sameHold, congrArg Hold.acquiredAt sameHold⟩
  have vacant (nobody : desk.flights = []) : desk.locks = LockTable.empty := by
    apply LockTable.eq_empty
    rw [List.eq_nil_iff_forall_not_mem]
    intro entry entryIn
    obtain ⟨flight, flightIn, _⟩ := owned entry.1 entry.2 entryIn
    rw [nobody] at flightIn
    cases flightIn
  refine ⟨owned, ?_, ?_, vacant, ?_, ?_, ?_, fun _ _ _ _ _ _ _ _ _ => invoke_of_turnedAway⟩
  · intro flight flightIn recorded
    have left : coordinator.step desk (.leave flight.number) = leave flight desk := by
      simp only [step, withFlight, orderly.find? flightIn]
    rw [left]
    unfold leave
    split
    next =>
      refine ⟨?_, LockTable.not_isHeldBy_releaseRun desk.locks _ _⟩
      intro other otherIn
      exact ((Desk.mem_remove _ _ other).mp otherIn).2
    next notRecorded =>
      cases stage : flight.stage with
      | recorded record response => exact absurd stage (notRecorded record response)
      | calling | answered => simp [stage, Stage.isRecorded] at recorded
  · intro flight flightIn calling response finishedAt nonce
    obtain ⟨roster, locks⟩ := coordinator.conclude_roster response finishedAt nonce orderly flightIn calling
    refine ⟨roster, ?_⟩
    rw [locks]
    exact LockTable.not_isHeldBy_releaseRun desk.locks _ _
  · intro nobody action now suffix hold
    rw [vacant nobody]
    exact LockTable.acquire_empty_ne_refused coordinator.policy action now suffix hold
  · intro nobody action now suffix timed
    have formed : now.utcForm?.isSome = true := timed.elim Timestamp.isSome_utcForm? id
    rw [vacant nobody]
    exact LockTable.acquire_empty formed coordinator.policy action suffix
  · intro event away
    exact (step_move coordinator desk event).same_of_refused away

/-- A desk at which a deployment has been called for. -/
def admitted : Desk (List RunRecord) :=
  (ofDeployment.run (Desk.opened []) [.call "alpha" "deploy" (.newYear 0) 1]).2

theorem flights_admitted : admitted.flights = [deployment] := by decide +kernel

theorem held_admitted : admitted.locks.held.map (·.1) = ["deploy"] := by decide +kernel

/-- The deployment holds its lock until the gateway has answered and its record was handed over, and then nobody
does. -/
theorem locks_let_go_concluded :
    admitted.flights = [deployment] ∧ admitted.locks.held.map (·.1) = ["deploy"] ∧
    ∀ response finishedAt nonce, (ofDeployment.conclude 0 response finishedAt nonce admitted).2.roster = [] ∧
      (ofDeployment.conclude 0 response finishedAt nonce admitted).2.locks.isHeldBy "deploy"
        deployment.execution.runId = false := by
  have letsGo : ofDeployment.LetsGo admitted := locks_let_go ofDeployment [] [.call "alpha" "deploy" (.newYear 0) 1]
  have flightIn : deployment ∈ admitted.flights := by
    rw [flights_admitted]
    exact List.mem_singleton_self deployment
  refine ⟨flights_admitted, held_admitted, ?_⟩
  intro response finishedAt nonce
  obtain ⟨roster, locks⟩ := letsGo.concluded deployment flightIn rfl response finishedAt nonce
  have alone : admitted.roster = [(0, deployment.execution)] := by
    rw [Desk.roster, flights_admitted]
    rfl
  rw [alone] at roster
  exact ⟨roster, locks⟩

end Coordinator

end SingleFlight
