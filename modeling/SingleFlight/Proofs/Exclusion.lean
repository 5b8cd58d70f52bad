import Mathlib.Data.List.Basic
import SingleFlight.Proofs.Minting
import SingleFlight.Proofs.Moves
import SingleFlight.Proofs.RunLog

/-!
Single flight. A run whose lock was taken away goes on all the same, so the table alone does not tell
who is under way. What holds at all times is that a flight of an action that is not exempt has its hold
in the table, or was found overdue at some reading of the clock; from then on it does not matter to
those that come later, and their ids can no longer be the same as its own.
-/

namespace SingleFlight

open Gateway Ledger Time

variable {σ : Type}

namespace LockTable

/-- An execution is overdue by its start. -/
theorem isStale_hold {policy : LockPolicy} {execution : Execution} {now : Timestamp} :
    isStale policy execution.hold now = true ↔
      (policy.staleAfterMilliseconds : Int) < now.millisecondsSince execution.startedAt := by
  rw [isStale_iff]
  exact Iff.rfl

/-- A clock that does not go back does not make a stale hold fresh. -/
theorem isStale_mono {policy : LockPolicy} {hold : Hold} {earlier later : Timestamp}
    (stale : isStale policy hold earlier = true) (forward : earlier.nanoseconds ≤ later.nanoseconds) :
    isStale policy hold later = true := by
  rw [isStale_iff, Timestamp.millisecondsSince] at stale ⊢
  omega

/-- Where a hold lasts a second at least, the one that comes after it is given in a later second. -/
theorem seconds_lt_of_stale {policy : LockPolicy} {hold : Hold} {now : Timestamp}
    (patient : 1000 ≤ policy.staleAfterMilliseconds) (stale : isStale policy hold now = true) :
    hold.acquiredAt.seconds < now.seconds := by
  have fractions (time : Timestamp) : time.display.nanosecond < 1000000000 := by
    have valid := time.valid
    simp only [Display.isValid, Bool.and_eq_true, decide_eq_true_eq] at valid
    exact valid.1.1.2
  have nowFraction := fractions now
  rw [isStale_iff, Timestamp.millisecondsSince, Timestamp.nanoseconds, Timestamp.nanoseconds] at stale
  omega

theorem runId_ne_of_stale {policy : LockPolicy} {first second : Execution} {firstSuffix secondSuffix : UInt16}
    (patient : 1000 ≤ policy.staleAfterMilliseconds)
    (firstMinted : RunId.mint? first.startedAt firstSuffix = some first.runId)
    (secondMinted : RunId.mint? second.startedAt secondSuffix = some second.runId)
    (stale : isStale policy first.hold second.startedAt = true) : first.runId ≠ second.runId := by
  intro same
  have later := seconds_lt_of_stale patient stale
  have together := RunId.seconds_of_mint (same ▸ firstMinted) secondMinted
  exact absurd together (Int.ne_of_lt later)

end LockTable

/-- Whether the entry of the table for an action is the one that an execution was given. -/
def Desk.Holds (desk : Desk σ) (execution : Execution) : Prop :=
  desk.locks.find? execution.action = some execution.hold

namespace Coordinator

/-- What the clock shows to a call that comes to ask for a lock. -/
def reading? (coordinator : Coordinator σ) : Event → Option Timestamp
  | .call project action now _ => if (coordinator.catalog.resolve project action).isOk then some now else none
  | _ => none

def readings (coordinator : Coordinator σ) (events : List Event) : List Timestamp :=
  events.filterMap coordinator.reading?

theorem readings_cons (coordinator : Coordinator σ) (event : Event) (rest : List Event) :
    coordinator.readings (event :: rest) = (coordinator.reading? event).toList ++ coordinator.readings rest := by
  simp only [readings, List.filterMap_cons]
  cases coordinator.reading? event <;> rfl

theorem reading?_call {coordinator : Coordinator σ} {project : Project} {action : Action} {now : Timestamp}
    {suffix : UInt16} {entry : CatalogEntry} (listed : coordinator.catalog.resolve project action = .ok entry) :
    coordinator.reading? (.call project action now suffix) = some now := by
  simp [reading?, listed, Except.isOk, Except.toBool]

/-- What is true of a desk at which the clock has shown certain readings to those who asked for locks. -/
structure Exclusive (coordinator : Coordinator σ) (seen : List Timestamp) (desk : Desk σ) : Prop where
  orderly : desk.Orderly
  minted : ∀ entry ∈ desk.roster, ∃ suffix, RunId.mint? entry.2.startedAt suffix = some entry.2.runId
  apart : ∀ first ∈ desk.roster, ∀ second ∈ desk.roster, first.1 < second.1 → first.2.action = second.2.action →
    coordinator.policy.isExempt first.2.action = false →
    LockTable.isStale coordinator.policy first.2.hold second.2.startedAt = true
  overdue : ∀ entry ∈ desk.roster, coordinator.policy.isExempt entry.2.action = false →
    desk.Holds entry.2 ∨ ∃ reading ∈ seen, LockTable.isStale coordinator.policy entry.2.hold reading = true

variable {coordinator : Coordinator σ} {seen : List Timestamp} {desk after : Desk σ}

theorem Exclusive.more_seen (exclusive : Exclusive coordinator seen desk) (more : List Timestamp) :
    Exclusive coordinator (seen ++ more) desk := by
  refine { exclusive with overdue := ?_ }
  intro entry entryIn notExempt
  rcases exclusive.overdue entry entryIn notExempt with holds | ⟨reading, readingIn, stale⟩
  · exact .inl holds
  · exact .inr ⟨reading, List.mem_append_left _ readingIn, stale⟩

/-- Nothing but the roster and the locks matters. -/
theorem Exclusive.of_same (exclusive : Exclusive coordinator seen desk) (orderly : after.Orderly)
    (sameRoster : after.roster = desk.roster) (sameLocks : after.locks = desk.locks) :
    Exclusive coordinator seen after where
  orderly := orderly
  minted := by rw [sameRoster]; exact exclusive.minted
  apart := by rw [sameRoster]; exact exclusive.apart
  overdue := by
    unfold Desk.Holds
    rw [sameRoster, sameLocks]
    exact exclusive.overdue

theorem Exclusive.runId_ne (exclusive : Exclusive coordinator seen desk)
    (patient : 1000 ≤ coordinator.policy.staleAfterMilliseconds) {first second : Nat × Execution}
    (firstIn : first ∈ desk.roster) (secondIn : second ∈ desk.roster) (different : first.1 ≠ second.1)
    (sameAction : first.2.action = second.2.action) (notExempt : coordinator.policy.isExempt first.2.action = false) :
    first.2.runId ≠ second.2.runId := by
  obtain ⟨_, firstMinted⟩ := exclusive.minted first firstIn
  obtain ⟨_, secondMinted⟩ := exclusive.minted second secondIn
  rcases Nat.lt_or_gt_of_ne different with before | behind
  · exact LockTable.runId_ne_of_stale patient firstMinted secondMinted
      (exclusive.apart first firstIn second secondIn before sameAction notExempt)
  · exact (LockTable.runId_ne_of_stale patient secondMinted firstMinted
      (exclusive.apart second secondIn first firstIn behind sameAction.symm (sameAction ▸ notExempt))).symm

/-- Whoever finishes takes no entry out of the table but its own. -/
theorem Exclusive.holds_releaseRun (exclusive : Exclusive coordinator seen desk)
    (patient : 1000 ≤ coordinator.policy.staleAfterMilliseconds) {leaving staying : Nat × Execution}
    (leavingIn : leaving ∈ desk.roster) (stayingIn : staying ∈ desk.roster) (different : leaving.1 ≠ staying.1)
    (notExempt : coordinator.policy.isExempt staying.2.action = false) (holds : desk.Holds staying.2) :
    (desk.locks.releaseRun leaving.2.action leaving.2.runId).2.find? staying.2.action = some staying.2.hold := by
  rw [LockTable.find?_releaseRun, if_neg]
  · exact holds
  · intro given
    obtain ⟨sameAction, heldBy⟩ := given
    obtain ⟨hold, held, sameRun⟩ := (LockTable.isHeldBy_iff _ _ _).mp heldBy
    rw [← sameAction, holds] at held
    cases held
    exact exclusive.runId_ne patient leavingIn stayingIn different sameAction.symm (sameAction ▸ notExempt) sameRun.symm

theorem Exclusive.left (exclusive : Exclusive coordinator seen desk)
    (patient : 1000 ≤ coordinator.policy.staleAfterMilliseconds) {flight : Flight} (flightIn : flight ∈ desk.flights)
    (orderly : ({ desk with
      locks := (desk.locks.releaseRun flight.execution.action flight.execution.runId).2 }.remove flight.number).Orderly) :
    Exclusive coordinator seen ({ desk with
      locks := (desk.locks.releaseRun flight.execution.action flight.execution.runId).2 }.remove flight.number) := by
  have stays {entry : Nat × Execution} (entryIn : entry ∈ ({ desk with
      locks := (desk.locks.releaseRun flight.execution.action flight.execution.runId).2 }.remove flight.number).roster) :
      entry ∈ desk.roster ∧ flight.number ≠ entry.1 := by
    rw [Desk.roster_remove] at entryIn
    obtain ⟨before, kept⟩ := List.mem_filter.mp entryIn
    refine ⟨before, ?_⟩
    intro same
    simp [same] at kept
  have leaving : (flight.number, flight.execution) ∈ desk.roster := Desk.mem_roster.mpr ⟨flight, flightIn, rfl⟩
  refine ⟨orderly, ?_, ?_, ?_⟩
  · intro entry entryIn
    exact exclusive.minted entry (stays entryIn).1
  · intro first firstIn second secondIn
    exact exclusive.apart first (stays firstIn).1 second (stays secondIn).1
  · intro entry entryIn notExempt
    obtain ⟨before, different⟩ := stays entryIn
    exact (exclusive.overdue entry before notExempt).imp_left
      fun holds => exclusive.holds_releaseRun patient leaving before different notExempt holds

/-- Whoever does not hold a lock that is there for the taking has been overdue for some time. -/
theorem Exclusive.stale_of_free (exclusive : Exclusive coordinator seen desk) {action : Action} {now : Timestamp}
    (forward : ∀ reading ∈ seen, reading.nanoseconds ≤ now.nanoseconds)
    (free : ∀ hold, desk.locks.find? action = some hold →
      LockTable.mayYield coordinator.policy action hold now = true)
    {entry : Nat × Execution} (entryIn : entry ∈ desk.roster) (sameAction : entry.2.action = action)
    (notExempt : coordinator.policy.isExempt action = false) :
    LockTable.isStale coordinator.policy entry.2.hold now = true := by
  rcases exclusive.overdue entry entryIn (sameAction ▸ notExempt) with holds | ⟨reading, readingIn, stale⟩
  · unfold Desk.Holds at holds
    exact (LockTable.mayYield_iff.mp (free _ (sameAction ▸ holds))).2
  · exact LockTable.isStale_mono stale (forward reading readingIn)

theorem Exclusive.brokenOff (exclusive : Exclusive coordinator seen desk) {action : Action} {now : Timestamp}
    {suffix : UInt16} {locks : LockTable}
    (broken : LockTable.acquire coordinator.policy desk.locks action now suffix = (.brokenOff, locks)) :
    Exclusive coordinator (seen ++ [now]) { desk with locks } := by
  rcases (LockTable.acquire_brokenOff broken).2 with same | ⟨hold, held, yields, erased⟩
  · exact (exclusive.more_seen [now]).of_same ⟨exclusive.orderly.rising, exclusive.orderly.below⟩ rfl same
  · refine ⟨⟨exclusive.orderly.rising, exclusive.orderly.below⟩, exclusive.minted, exclusive.apart, ?_⟩
    intro entry entryIn notExempt
    rcases exclusive.overdue entry entryIn notExempt with holds | ⟨reading, readingIn, stale⟩
    · by_cases sameAction : entry.2.action = action
      · unfold Desk.Holds at holds
        rw [sameAction, held] at holds
        cases holds
        exact .inr ⟨now, by simp, (LockTable.mayYield_iff.mp yields).2⟩
      · exact .inl (by simpa [Desk.Holds, erased, sameAction] using holds)
    · exact .inr ⟨reading, List.mem_append_left _ readingIn, stale⟩

theorem Exclusive.sent (exclusive : Exclusive coordinator seen desk) {project : Project} {action : Action}
    {target : String} {now : Timestamp} {suffix : UInt16} {runId : RunId} {locks : LockTable}
    (forward : ∀ reading ∈ seen, reading.nanoseconds ≤ now.nanoseconds)
    (minted : RunId.mint? now suffix = some runId)
    (granted : LockTable.Granted coordinator.policy desk.locks action now runId locks)
    (orderly : ({ desk with locks }.launch ⟨project, action, target, runId, now⟩).Orderly) :
    Exclusive coordinator (seen ++ [now]) ({ desk with locks }.launch ⟨project, action, target, runId, now⟩) := by
  have split {entry : Nat × Execution}
      (entryIn : entry ∈ ({ desk with locks }.launch ⟨project, action, target, runId, now⟩).roster) :
      entry ∈ desk.roster ∨ entry = (desk.next, ⟨project, action, target, runId, now⟩) := by
    rw [Desk.roster_launch] at entryIn
    exact (List.mem_append.mp entryIn).imp_right List.mem_singleton.mp
  have below := (desk.orderly_iff.mp exclusive.orderly).2
  refine ⟨orderly, ?_, ?_, ?_⟩
  · intro entry entryIn
    rcases split entryIn with before | rfl
    · exact exclusive.minted entry before
    · exact ⟨suffix, minted⟩
  · intro first firstIn second secondIn rising sameAction notExempt
    rcases split firstIn with firstBefore | rfl
    · rcases split secondIn with secondBefore | rfl
      · exact exclusive.apart first firstBefore second secondBefore rising sameAction notExempt
      · have actionNotExempt : coordinator.policy.isExempt action = false :=
          (congrArg coordinator.policy.isExempt sameAction).symm.trans notExempt
        cases granted with
        | beside _ _ exempt => exact absurd exempt (by simp [actionNotExempt])
        | alone free => exact exclusive.stale_of_free forward free firstBefore sameAction actionNotExempt
    · rcases split secondIn with secondBefore | rfl
      · exact absurd (below second secondBefore) (Nat.lt_asymm rising)
      · exact absurd rising (Nat.lt_irrefl _)
  · intro entry entryIn notExempt
    cases granted with
    | beside hold held exempt same =>
      rcases split entryIn with before | rfl
      · subst same
        exact (exclusive.more_seen [now]).overdue entry before notExempt
      · exact absurd exempt (by simp [show coordinator.policy.isExempt action = false from notExempt])
    | alone free after =>
      rcases split entryIn with before | rfl
      · by_cases sameAction : entry.2.action = action
        · exact .inr ⟨now, by simp, exclusive.stale_of_free forward free before sameAction (sameAction ▸ notExempt)⟩
        · refine ((exclusive.more_seen [now]).overdue entry before notExempt).imp_left fun holds => ?_
          exact (after entry.2.action).trans ((if_neg sameAction).trans holds)
      · exact .inl ((after action).trans (if_pos rfl))

/-- One step keeps all of it, if the clock did not go back. -/
theorem Exclusive.step {event : Event} {notice : Notice} (exclusive : Exclusive coordinator seen desk)
    (patient : 1000 ≤ coordinator.policy.staleAfterMilliseconds)
    (forward : ∀ reading ∈ seen, ∀ now ∈ coordinator.reading? event, reading.nanoseconds ≤ now.nanoseconds)
    (move : Move coordinator desk event notice after) :
    Exclusive coordinator (seen ++ (coordinator.reading? event).toList) after := by
  have orderly := move.orderly exclusive.orderly
  cases move with
  | refused | busy | idle => exact exclusive.more_seen _
  | brokenOff listed broken =>
    rw [reading?_call listed]
    exact exclusive.brokenOff broken
  | sent listed minted granted =>
    rw [reading?_call listed]
    exact exclusive.sent (fun reading readingIn => forward reading readingIn _ (reading?_call listed)) minted granted orderly
  | answered found =>
    exact (exclusive.more_seen _).of_same orderly
      (exclusive.orderly.roster_replace (Desk.find?_some found).1 rfl rfl) rfl
  | recorded found =>
    have same (ledger : σ) : Desk.Orderly { desk with ledger } := ⟨exclusive.orderly.rising, exclusive.orderly.below⟩
    exact (exclusive.more_seen _).of_same orderly ((same _).roster_replace (Desk.find?_some found).1 rfl rfl) rfl
  | left found => exact (exclusive.left patient (Desk.find?_some found).1 orderly).more_seen _
  | abandoned found =>
    exact (exclusive.more_seen _).of_same orderly
      (exclusive.orderly.roster_replace (Desk.find?_some found).1 rfl rfl) rfl

theorem Exclusive.run (events : List Event) (exclusive : Exclusive coordinator seen desk)
    (patient : 1000 ≤ coordinator.policy.staleAfterMilliseconds)
    (forward : (seen ++ coordinator.readings events).Pairwise
      fun earlier later => earlier.nanoseconds ≤ later.nanoseconds) :
    Exclusive coordinator (seen ++ coordinator.readings events) (coordinator.run desk events).2 := by
  induction events generalizing seen desk with
  | nil => exact exclusive.more_seen _
  | cons event rest ih =>
    rw [readings_cons, ← List.append_assoc] at forward ⊢
    rw [run_cons]
    have stepForward := (List.pairwise_append.mp (List.pairwise_append.mp forward).1).2.2
    apply ih _ forward
    apply exclusive.step patient _ (step_move coordinator desk event)
    intro reading readingIn now shown
    exact stepForward reading readingIn now (by simpa using shown)

theorem exclusive_opened (coordinator : Coordinator σ) (ledger : σ) : Exclusive coordinator [] (Desk.opened ledger) := by
  refine ⟨Desk.orderly_opened ledger, ?_, ?_, ?_⟩ <;> simp

/-- A flight that holds its lock loses it only when it finishes itself, or when it is overdue. -/
theorem Exclusive.keeps {event : Event} {notice : Notice} (exclusive : Exclusive coordinator seen desk)
    (patient : 1000 ≤ coordinator.policy.staleAfterMilliseconds) {flight : Flight} (flightIn : flight ∈ desk.flights)
    (notExempt : coordinator.policy.isExempt flight.execution.action = false) (holds : desk.Holds flight.execution)
    (move : Move coordinator desk event notice after) :
    after.Holds flight.execution ∨ event = .leave flight.number ∨
      ∃ project now suffix, event = .call project flight.execution.action now suffix ∧
        LockTable.isStale coordinator.policy flight.execution.hold now = true := by
  have member {other : Flight} (otherIn : other ∈ desk.flights) : (other.number, other.execution) ∈ desk.roster :=
    Desk.mem_roster.mpr ⟨other, otherIn, rfl⟩
  cases move with
  | refused | busy | idle | answered | recorded | abandoned => exact .inl holds
  | @brokenOff project action now suffix _ locks listed broken =>
    rcases (LockTable.acquire_brokenOff broken).2 with same | ⟨hold, held, yields, erased⟩
    · subst same
      exact .inl holds
    · by_cases sameAction : flight.execution.action = action
      · unfold Desk.Holds at holds
        rw [sameAction, held] at holds
        cases holds
        exact .inr (.inr ⟨project, now, suffix, by rw [sameAction], (LockTable.mayYield_iff.mp yields).2⟩)
      · exact .inl (by simpa [Desk.Holds, erased, sameAction] using holds)
  | @sent project action now suffix entry runId locks listed minted granted =>
    cases granted with
    | beside hold held exempt same =>
      subst same
      exact .inl holds
    | alone free after =>
      by_cases sameAction : flight.execution.action = action
      · unfold Desk.Holds at holds
        have yields := free _ (sameAction ▸ holds)
        exact .inr (.inr ⟨project, now, suffix, by rw [sameAction], (LockTable.mayYield_iff.mp yields).2⟩)
      · exact .inl ((after flight.execution.action).trans ((if_neg sameAction).trans holds))
  | @left number leaving record response notice found stage told =>
    obtain ⟨leavingIn, numberIs⟩ := Desk.find?_some found
    by_cases same : leaving.number = flight.number
    · exact .inr (.inl (by rw [← numberIs, same]))
    · exact .inl (exclusive.holds_releaseRun patient (member leavingIn) (member flightIn) same notExempt holds)

/-- A caller who finds a lock held, and not for too long, is told which run to join. -/
theorem step_of_fresh_hold {project : Project} {action : Action} {now : Timestamp} {suffix : UInt16}
    {entry : CatalogEntry} {hold : Hold} (listed : coordinator.catalog.resolve project action = .ok entry)
    (held : desk.locks.find? action = some hold) (notExempt : coordinator.policy.isExempt action = false)
    (fresh : LockTable.isStale coordinator.policy hold now = false) :
    coordinator.step desk (.call project action now suffix) = (.busy ⟨action, hold.runId, hold.acquiredAt⟩, desk) := by
  simp only [step, call, listed, LockTable.acquire_of_fresh_hold held notExempt fresh]

/-- What single flight comes to for the executions under way, and for those of actions that are not
exempt in particular. The executions that were admitted so far are given with their numbers. -/
structure FliesAlone (coordinator : Coordinator σ) (admitted : List (Nat × Execution)) (desk : Desk σ) : Prop where
  /-- Numbers say who was admitted first. -/
  numbered : admitted.map (·.1) = List.range admitted.length
  /-- Whoever is under way was admitted. -/
  known : desk.roster.Sublist admitted
  /-- Of two executions of an action, the later one was admitted when the earlier one was overdue. -/
  apart : ∀ first ∈ desk.flights, ∀ second ∈ desk.flights, first.number < second.number →
    first.execution.action = second.execution.action →
    coordinator.policy.isExempt first.execution.action = false →
    (coordinator.policy.staleAfterMilliseconds : Int) <
      second.execution.startedAt.millisecondsSince first.execution.startedAt
  distinct : ∀ first ∈ desk.flights, ∀ second ∈ desk.flights, first.number ≠ second.number →
    first.execution.action = second.execution.action →
    coordinator.policy.isExempt first.execution.action = false → first.execution.runId ≠ second.execution.runId
  /-- Whoever finishes leaves the entries of all others in the table. -/
  undisturbed : ∀ flight ∈ desk.flights, coordinator.policy.isExempt flight.execution.action = false →
    desk.Holds flight.execution → ∀ other ∈ desk.flights, other.number ≠ flight.number →
      (coordinator.step desk (.leave other.number)).2.Holds flight.execution
  /-- An entry goes only when its execution finishes, or with a call that comes when it is overdue. -/
  kept : ∀ flight ∈ desk.flights, coordinator.policy.isExempt flight.execution.action = false →
    desk.Holds flight.execution → ∀ event, (coordinator.step desk event).2.Holds flight.execution ∨
      event = .leave flight.number ∨ ∃ project now suffix, event = .call project flight.execution.action now suffix ∧
        (coordinator.policy.staleAfterMilliseconds : Int) < now.millisecondsSince flight.execution.startedAt
  /-- Until then, whoever calls is told to join it. -/
  joined : ∀ flight ∈ desk.flights, coordinator.policy.isExempt flight.execution.action = false →
    desk.Holds flight.execution → ∀ project now suffix entry,
      coordinator.catalog.resolve project flight.execution.action = .ok entry →
      now.millisecondsSince flight.execution.startedAt ≤ (coordinator.policy.staleAfterMilliseconds : Int) →
      coordinator.step desk (.call project flight.execution.action now suffix) =
        (.busy ⟨flight.execution.action, flight.execution.runId, flight.execution.startedAt⟩, desk)

/-- Whatever calls come, and however the answers to them, their records, the departures and the callers
who do not wait are mixed: if holds last a second at least and the clock does not go back between two
requests for a lock, then executions of one action are never under way together, unless the earlier one
was overdue, and they do not get into each other's way. -/
theorem single_flight (coordinator : Coordinator σ) (ledger : σ) (events : List Event)
    (patient : 1000 ≤ coordinator.policy.staleAfterMilliseconds)
    (forward : (coordinator.readings events).Pairwise fun earlier later => earlier.nanoseconds ≤ later.nanoseconds) :
    coordinator.FliesAlone (grants events (coordinator.run (Desk.opened ledger) events).1)
      (coordinator.run (Desk.opened ledger) events).2 := by
  have exclusive := (exclusive_opened coordinator ledger).run events patient (by simpa using forward)
  generalize ran : coordinator.run (Desk.opened ledger) events = course at exclusive ⊢
  have member {flight : Flight} (flightIn : flight ∈ course.2.flights) :
      (flight.number, flight.execution) ∈ course.2.roster := Desk.mem_roster.mpr ⟨flight, flightIn, rfl⟩
  have numbers := grants_numbers coordinator (Desk.opened ledger) events (Desk.orderly_opened ledger)
  have roster := roster_run coordinator (Desk.opened ledger) events (Desk.orderly_opened ledger)
  rw [ran, Desk.next_opened] at numbers
  rw [ran, Desk.roster_opened, List.nil_append] at roster
  constructor
  · rw [numbers, List.range_eq_range']
  · exact roster
  · intro first firstIn second secondIn rising sameAction notExempt
    have stale := exclusive.apart (first.number, first.execution) (member firstIn)
      (second.number, second.execution) (member secondIn) rising sameAction notExempt
    exact LockTable.isStale_hold.mp stale
  · intro first firstIn second secondIn different sameAction notExempt
    have firstRow := member firstIn
    have secondRow := member secondIn
    exact exclusive.runId_ne patient firstRow secondRow different sameAction notExempt
  · intro flight flightIn notExempt holds other otherIn different
    rcases exclusive.keeps patient flightIn notExempt holds (step_move coordinator course.2 (.leave other.number)) with
      stays | itself | ⟨_, _, _, call, _⟩
    · exact stays
    · exact absurd (Event.leave.inj itself) different
    · cases call
  · intro flight flightIn notExempt holds event
    rcases exclusive.keeps patient flightIn notExempt holds (step_move coordinator course.2 event) with
      stays | itself | ⟨project, now, suffix, call, stale⟩
    · exact .inl stays
    · exact .inr (.inl itself)
    · exact .inr (.inr ⟨project, now, suffix, call, LockTable.isStale_hold.mp stale⟩)
  · intro flight flightIn notExempt holds project now suffix entry listed soon
    refine step_of_fresh_hold listed holds notExempt ?_
    rw [Bool.eq_false_iff, ne_eq, LockTable.isStale_hold]
    exact Int.not_lt.mpr soon

/-- Two deployments, the second one asked for when the first one is overdue. -/
def overlap : List Event :=
  [.call "alpha" "deploy" (.newYear 999999999) 0,
    .call "alpha" "deploy" (.newYear 3000000000) 0]

theorem single_flight_overlap :
    1000 ≤ ofDeployment.policy.staleAfterMilliseconds ∧
    (ofDeployment.readings overlap).Pairwise (fun earlier later => earlier.nanoseconds ≤ later.nanoseconds) ∧
    (ofDeployment.run (Desk.opened []) overlap).2.roster.map (·.1) = [0, 1] ∧
    ofDeployment.FliesAlone (grants overlap (ofDeployment.run (Desk.opened []) overlap).1)
      (ofDeployment.run (Desk.opened []) overlap).2 := by
  have patient : 1000 ≤ ofDeployment.policy.staleAfterMilliseconds := by decide
  have forward : (ofDeployment.readings overlap).Pairwise
      (fun earlier later => earlier.nanoseconds ≤ later.nanoseconds) := by decide +kernel
  refine ⟨patient, forward, ?_, single_flight ofDeployment [] overlap patient forward⟩
  decide +kernel

end Coordinator

end SingleFlight
