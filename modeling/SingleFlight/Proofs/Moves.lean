import Mathlib.Data.List.Nodup
import SingleFlight.Flight.Desk
import SingleFlight.Proofs.Admission

/-!
What one step at the desk can do. Every fact about a whole course of steps is proved from this list, and
from the two things that hold of the flights at all times: they stand in the order in which they were
launched, and their numbers have all been given out.
-/

namespace SingleFlight

open Gateway Ledger Time

variable {σ : Type}

/-- The hold that an execution was given when it was admitted. -/
def Execution.hold (execution : Execution) : Hold := ⟨execution.runId, execution.startedAt⟩

def Stage.isRecorded : Stage → Bool
  | .recorded _ _ => true
  | _ => false

namespace Coordinator

/-- A step, by what it does. A step of a flight that is not there or not so far does nothing. -/
inductive Move (coordinator : Coordinator σ) (desk : Desk σ) : Event → Notice → Desk σ → Prop where
  | refused {project : Project} {action : Action} {now : Timestamp} {suffix : UInt16} {fault : Fault}
      (unlisted : coordinator.catalog.resolve project action = .error fault) :
      Move coordinator desk (.call project action now suffix) (.refused fault) desk
  | brokenOff {project : Project} {action : Action} {now : Timestamp} {suffix : UInt16} {entry : CatalogEntry}
      {locks : LockTable} (listed : coordinator.catalog.resolve project action = .ok entry)
      (broken : LockTable.acquire coordinator.policy desk.locks action now suffix = (.brokenOff, locks)) :
      Move coordinator desk (.call project action now suffix) .brokenOff { desk with locks }
  | busy {project : Project} {action : Action} {now : Timestamp} {suffix : UInt16} {entry : CatalogEntry} {hold : Hold}
      (listed : coordinator.catalog.resolve project action = .ok entry)
      (held : desk.locks.find? action = some hold) (notExempt : coordinator.policy.isExempt action = false)
      (fresh : LockTable.isStale coordinator.policy hold now = false) :
      Move coordinator desk (.call project action now suffix) (.busy ⟨action, hold.runId, hold.acquiredAt⟩) desk
  | sent {project : Project} {action : Action} {now : Timestamp} {suffix : UInt16} {entry : CatalogEntry}
      {runId : RunId} {locks : LockTable} (listed : coordinator.catalog.resolve project action = .ok entry)
      (minted : RunId.mint? now suffix = some runId)
      (granted : LockTable.Granted coordinator.policy desk.locks action now runId locks) :
      Move coordinator desk (.call project action now suffix)
        (.sent desk.next (Execution.mk project action entry.target runId now).request)
        ({ desk with locks }.launch ⟨project, action, entry.target, runId, now⟩)
  | idle {event : Event} : Move coordinator desk event .nothing desk
  | answered {number : Nat} {response : Response} {flight : Flight} (found : desk.find? number = some flight)
      (stage : flight.stage = .calling) :
      Move coordinator desk (.answer number response) .nothing (desk.replace { flight with stage := .answered response })
  | recorded {number : Nat} {finishedAt : Timestamp} {nonce : UInt32} {flight : Flight} {response : Response}
      (found : desk.find? number = some flight) (stage : flight.stage = .answered response) :
      Move coordinator desk (.record number finishedAt nonce) .nothing
        ({ desk with
          ledger := (coordinator.store.write nonce (flight.execution.record response finishedAt) desk.ledger).2 }.replace
          { flight with stage := .recorded (flight.execution.record response finishedAt) response })
  | left {number : Nat} {flight : Flight} {record : RunRecord} {response : Response} {notice : Notice}
      (found : desk.find? number = some flight) (stage : flight.stage = .recorded record response)
      (told : notice = if flight.isAwaited then .ended (Outcome.ofRecord record response)
        else .released flight.execution.action) :
      Move coordinator desk (.leave number) notice
        ({ desk with
          locks := (desk.locks.releaseRun flight.execution.action flight.execution.runId).2 }.remove flight.number)
  | abandoned {number : Nat} {flight : Flight} (found : desk.find? number = some flight) :
      Move coordinator desk (.abandon number) .nothing (desk.replace { flight with isAwaited := false })

theorem call_move (coordinator : Coordinator σ) (desk : Desk σ) (project : Project) (action : Action) (now : Timestamp)
    (suffix : UInt16) :
    Move coordinator desk (.call project action now suffix) (coordinator.call project action now suffix desk).1
      (coordinator.call project action now suffix desk).2 := by
  unfold call
  split
  next unlisted => exact .refused unlisted
  next listed =>
    split
    next broken => exact .brokenOff listed broken
    next refused =>
      obtain ⟨rfl, held, notExempt, fresh⟩ := LockTable.acquire_refused refused
      exact .busy listed held notExempt fresh
    next granted =>
      obtain ⟨rfl, minted, after⟩ := LockTable.acquire_granted granted
      exact .sent listed minted after

theorem step_move (coordinator : Coordinator σ) (desk : Desk σ) (event : Event) :
    Move coordinator desk event (coordinator.step desk event).1 (coordinator.step desk event).2 := by
  cases event with
  | call project action now suffix => exact call_move coordinator desk project action now suffix
  | answer number response =>
    simp only [step, withFlight]
    split
    next found =>
      unfold answer
      split
      next stage => exact .answered found stage
      next => exact .idle
    next => exact .idle
  | record number finishedAt nonce =>
    simp only [step, withFlight]
    split
    next found =>
      unfold record
      split
      next stage => exact .recorded found stage
      next => exact .idle
    next => exact .idle
  | leave number =>
    simp only [step, withFlight]
    split
    next found =>
      unfold leave
      split
      next stage => exact .left found stage rfl
      next => exact .idle
    next => exact .idle
  | abandon number =>
    simp only [step, withFlight]
    split
    next found => exact .abandoned found
    next => exact .idle

theorem run_cons (coordinator : Coordinator σ) (desk : Desk σ) (event : Event) (rest : List Event) :
    coordinator.run desk (event :: rest) =
      ((coordinator.step desk event).1 :: (coordinator.run (coordinator.step desk event).2 rest).1,
        (coordinator.run (coordinator.step desk event).2 rest).2) := rfl

end Coordinator

namespace Desk

/-- Flights stand in the order in which they were launched, under numbers that were given out. -/
structure Orderly (desk : Desk σ) : Prop where
  rising : desk.flights.Pairwise fun first second => first.number < second.number
  below : ∀ flight ∈ desk.flights, flight.number < desk.next

variable {desk : Desk σ} {flight other : Flight} {number : Nat}

theorem find?_some (found : desk.find? number = some flight) : flight ∈ desk.flights ∧ flight.number = number := by
  refine ⟨List.mem_of_find?_eq_some found, ?_⟩
  simpa using List.find?_some found

theorem Orderly.unique (orderly : desk.Orderly) (flightIn : flight ∈ desk.flights) (otherIn : other ∈ desk.flights)
    (same : flight.number = other.number) : flight = other := by
  have distinct : (desk.flights.map Flight.number).Nodup := List.pairwise_map.mpr (orderly.rising.imp Nat.ne_of_lt)
  exact List.inj_on_of_nodup_map distinct flightIn otherIn same

theorem Orderly.find? (orderly : desk.Orderly) (flightIn : flight ∈ desk.flights) :
    desk.find? flight.number = some flight := by
  cases found : desk.find? flight.number with
  | none =>
    have absent := List.find?_eq_none.mp found flight flightIn
    simp at absent
  | some first =>
    obtain ⟨firstIn, same⟩ := find?_some found
    rw [orderly.unique firstIn flightIn same]

/-- A flight that is replaced by one of its number takes its place, and no other one is touched. -/
theorem Orderly.mem_replace (orderly : desk.Orderly) (flightIn : flight ∈ desk.flights)
    (same : other.number = flight.number) (third : Flight) :
    third ∈ (desk.replace other).flights ↔ third = other ∨ (third ∈ desk.flights ∧ third ≠ flight) := by
  simp only [replace, List.mem_map]
  constructor
  · intro given
    obtain ⟨found, foundIn, rfl⟩ := given
    split
    next => exact .inl rfl
    next different =>
      refine .inr ⟨foundIn, ?_⟩
      intro equal
      exact different (equal ▸ same.symm)
  · intro either
    rcases either with rfl | ⟨thirdIn, different⟩
    · exact ⟨flight, flightIn, by simp [same]⟩
    · refine ⟨third, thirdIn, ?_⟩
      rw [if_neg]
      intro sameNumber
      exact different (orderly.unique thirdIn flightIn (sameNumber.trans same))

theorem mem_remove (desk : Desk σ) (number : Nat) (third : Flight) :
    third ∈ (desk.remove number).flights ↔ third ∈ desk.flights ∧ third.number ≠ number := by
  simp [remove, List.mem_filter]

theorem mem_launch (desk : Desk σ) (execution : Execution) (third : Flight) :
    third ∈ (desk.launch execution).flights ↔ third ∈ desk.flights ∨ third = ⟨desk.next, execution, .calling, true⟩ := by
  simp [launch]

/-- The flights with all that a step of their own may change left out: their numbers and their executions. -/
def roster (desk : Desk σ) : List (Nat × Execution) := desk.flights.map fun flight => (flight.number, flight.execution)

theorem mem_roster {entry : Nat × Execution} :
    entry ∈ desk.roster ↔ ∃ flight ∈ desk.flights, (flight.number, flight.execution) = entry := List.mem_map

theorem Orderly.roster_replace (orderly : desk.Orderly) (flightIn : flight ∈ desk.flights)
    (same : other.number = flight.number) (sameExecution : other.execution = flight.execution) :
    (desk.replace other).roster = desk.roster := by
  simp only [roster, replace, List.map_map]
  apply List.map_congr_left
  intro third thirdIn
  by_cases equal : third.number = other.number
  · rw [orderly.unique thirdIn flightIn (equal.trans same)]
    simp [same, sameExecution]
  · simp [equal]

theorem roster_remove (desk : Desk σ) (number : Nat) :
    (desk.remove number).roster = desk.roster.filter fun entry => !(entry.1 == number) := by
  simp only [roster, remove, List.filter_map]
  rfl

theorem roster_launch (desk : Desk σ) (execution : Execution) :
    (desk.launch execution).roster = desk.roster ++ [(desk.next, execution)] := by
  simp [roster, launch]

/-- Order among the flights is order among the entries of the roster. -/
theorem orderly_iff (desk : Desk σ) :
    desk.Orderly ↔ desk.roster.Pairwise (fun first second => first.1 < second.1) ∧
      ∀ entry ∈ desk.roster, entry.1 < desk.next := by
  constructor
  · intro orderly
    refine ⟨List.pairwise_map.mpr orderly.rising, ?_⟩
    intro entry entryIn
    obtain ⟨flight, flightIn, rfl⟩ := mem_roster.mp entryIn
    exact orderly.below flight flightIn
  · intro given
    obtain ⟨rising, below⟩ := given
    refine ⟨?_, fun flight flightIn => below _ (mem_roster.mpr ⟨flight, flightIn, rfl⟩)⟩
    rw [roster, List.pairwise_map] at rising
    exact rising

@[simp]
theorem roster_opened (ledger : σ) : (opened ledger).roster = [] := rfl

@[simp]
theorem next_opened (ledger : σ) : (opened ledger).next = 0 := rfl

theorem orderly_opened (ledger : σ) : (opened ledger).Orderly := ⟨List.Pairwise.nil, by simp [opened]⟩

end Desk

namespace Coordinator

/-- The execution that an event set off and the number of its flight, as they show in the event and in
what was seen of it. -/
def grant? : Event → Notice → Option (Nat × Execution)
  | .call project action now _, .sent number request =>
    some (number, ⟨project, action, request.target, request.runId, now⟩)
  | _, _ => none

/-- The executions that a course of events set off, in the order in which they were admitted. -/
def grants (events : List Event) (notices : List Notice) : List (Nat × Execution) :=
  (events.zip notices).filterMap fun seen => grant? seen.1 seen.2

theorem grants_cons (event : Event) (notice : Notice) (events : List Event) (notices : List Notice) :
    grants (event :: events) (notice :: notices) = (grant? event notice).toList ++ grants events notices := by
  simp only [grants, List.zip_cons_cons, List.filterMap_cons]
  cases grant? event notice <;> rfl

/-- What a step makes of the roster: a launch adds to its end, a departure takes one entry out, and that
of a flight whose record is written. -/
theorem Move.roster {coordinator : Coordinator σ} {desk after : Desk σ} {event : Event} {notice : Notice}
    (orderly : desk.Orderly) (move : Move coordinator desk event notice after) :
    (after.roster = desk.roster ∧ after.next = desk.next ∧ grant? event notice = none) ∨
    (∃ execution, after.roster = desk.roster ++ [(desk.next, execution)] ∧ after.next = desk.next + 1 ∧
      grant? event notice = some (desk.next, execution)) ∨
    (∃ flight ∈ desk.flights, flight.stage.isRecorded = true ∧
      after.roster = desk.roster.filter (fun entry => !(entry.1 == flight.number)) ∧ after.next = desk.next ∧
      grant? event notice = none) := by
  cases move with
  | refused | busy | brokenOff => exact .inl ⟨rfl, rfl, rfl⟩
  | idle =>
    refine .inl ⟨rfl, rfl, ?_⟩
    cases event <;> rfl
  | sent => exact .inr (.inl ⟨_, Desk.roster_launch _ _, rfl, rfl⟩)
  | answered found => exact .inl ⟨orderly.roster_replace (Desk.find?_some found).1 rfl rfl, rfl, rfl⟩
  | recorded found =>
    have same (ledger : σ) : Desk.Orderly { desk with ledger } := ⟨orderly.rising, orderly.below⟩
    exact .inl ⟨(same _).roster_replace (Desk.find?_some found).1 rfl rfl, rfl, rfl⟩
  | left found stage =>
    refine .inr (.inr ⟨_, (Desk.find?_some found).1, ?_, Desk.roster_remove _ _, rfl, rfl⟩)
    rw [stage]
    rfl
  | abandoned found => exact .inl ⟨orderly.roster_replace (Desk.find?_some found).1 rfl rfl, rfl, rfl⟩

/-- Who is under way after a step was under way before it, or was admitted by it. -/
theorem Move.roster_sublist {coordinator : Coordinator σ} {desk after : Desk σ} {event : Event} {notice : Notice}
    (orderly : desk.Orderly) (move : Move coordinator desk event notice after) :
    after.roster.Sublist (desk.roster ++ (grant? event notice).toList) := by
  rcases move.roster orderly with ⟨same, _, silent⟩ | ⟨execution, longer, _, seen⟩ | ⟨_, _, _, shorter, _, silent⟩
  · rw [same, silent]
    exact List.sublist_append_left _ _
  · rw [longer, seen]
    exact List.Sublist.refl _
  · rw [shorter, silent]
    exact List.filter_sublist.trans (List.sublist_append_left _ _)

theorem Move.orderly {coordinator : Coordinator σ} {desk after : Desk σ} {event : Event} {notice : Notice}
    (orderly : desk.Orderly) (move : Move coordinator desk event notice after) : after.Orderly := by
  obtain ⟨rising, below⟩ := desk.orderly_iff.mp orderly
  rw [Desk.orderly_iff]
  rcases move.roster orderly with ⟨same, next, _⟩ | ⟨execution, longer, next, _⟩ | ⟨_, _, _, shorter, next, _⟩
  · rw [same, next]
    exact ⟨rising, below⟩
  · rw [longer, next]
    constructor
    · rw [List.pairwise_append]
      refine ⟨rising, List.pairwise_singleton _ _, ?_⟩
      intro entry entryIn last lastIn
      rw [List.mem_singleton.mp lastIn]
      exact below entry entryIn
    · intro entry entryIn
      rcases List.mem_append.mp entryIn with before | last
      · exact Nat.lt_succ_of_lt (below entry before)
      · rw [List.mem_singleton.mp last]
        exact Nat.lt_succ_self _
  · rw [shorter, next]
    exact ⟨rising.filter _, fun entry entryIn => below entry (List.mem_filter.mp entryIn).1⟩

theorem orderly_run (coordinator : Coordinator σ) (desk : Desk σ) (events : List Event) (orderly : desk.Orderly) :
    (coordinator.run desk events).2.Orderly := by
  induction events generalizing desk with
  | nil => exact orderly
  | cons event rest ih =>
    rw [run_cons]
    exact ih _ ((step_move coordinator desk event).orderly orderly)

/-- Numbers are given out in the order in which executions are admitted. -/
theorem grants_numbers (coordinator : Coordinator σ) (desk : Desk σ) (events : List Event) (orderly : desk.Orderly) :
    (grants events (coordinator.run desk events).1).map (·.1) =
      List.range' desk.next (grants events (coordinator.run desk events).1).length := by
  induction events generalizing desk with
  | nil => rfl
  | cons event rest ih =>
    have move := step_move coordinator desk event
    have later := ih _ (move.orderly orderly)
    rw [run_cons, grants_cons]
    rcases move.roster orderly with ⟨_, next, silent⟩ | ⟨execution, _, next, seen⟩ | ⟨_, _, _, _, next, silent⟩
    · rw [next] at later
      simpa [silent] using later
    · rw [next] at later
      simpa [seen, List.range'_succ] using later
    · rw [next] at later
      simpa [silent] using later

theorem roster_run (coordinator : Coordinator σ) (desk : Desk σ) (events : List Event) (orderly : desk.Orderly) :
    (coordinator.run desk events).2.roster.Sublist (desk.roster ++ grants events (coordinator.run desk events).1) := by
  induction events generalizing desk with
  | nil => exact List.sublist_append_left _ _
  | cons event rest ih =>
    have move := step_move coordinator desk event
    rw [run_cons, grants_cons, ← List.append_assoc]
    exact (ih _ (move.orderly orderly)).trans ((move.roster_sublist orderly).append_right _)

/-- Whoever holds a lock is under way: each entry of the table is the one that an execution was given. -/
def Backed (desk : Desk σ) : Prop :=
  ∀ action hold, desk.locks.find? action = some hold →
    ∃ entry ∈ desk.roster, entry.2.action = action ∧ entry.2.hold = hold

theorem Backed.of_roster {desk after : Desk σ} (backed : Backed desk) (roster : after.roster = desk.roster)
    (locks : after.locks = desk.locks) : Backed after := by
  unfold Backed
  rw [roster, locks]
  exact backed

/-- A departure takes the entry of its own run out of the table, so the entries that stay are those of others. -/
theorem Backed.left {desk : Desk σ} {flight : Flight} (orderly : desk.Orderly) (backed : Backed desk)
    (flightIn : flight ∈ desk.flights) :
    Backed ({ desk with
      locks := (desk.locks.releaseRun flight.execution.action flight.execution.runId).2 }.remove flight.number) := by
  intro action hold held
  have stays : ¬(action = flight.execution.action ∧
      desk.locks.isHeldBy flight.execution.action flight.execution.runId = true) ∧
      desk.locks.find? action = some hold := by
    have found := (LockTable.find?_releaseRun desk.locks flight.execution.action action flight.execution.runId).symm.trans held
    split at found
    next => cases found
    next apart => exact ⟨apart, found⟩
  obtain ⟨entry, entryIn, sameAction, sameHold⟩ := backed action hold stays.2
  refine ⟨entry, ?_, sameAction, sameHold⟩
  rw [Desk.roster_remove]
  refine List.mem_filter.mpr ⟨entryIn, ?_⟩
  simp only [Bool.not_eq_true', beq_eq_false_iff_ne, ne_eq]
  intro sameNumber
  obtain ⟨other, otherIn, rfl⟩ := Desk.mem_roster.mp entryIn
  obtain rfl := orderly.unique otherIn flightIn sameNumber
  apply stays.1
  refine ⟨sameAction.symm, ?_⟩
  rw [LockTable.isHeldBy_iff]
  exact ⟨hold, sameAction ▸ stays.2, congrArg Hold.runId sameHold.symm⟩

theorem Move.backed {coordinator : Coordinator σ} {desk after : Desk σ} {event : Event} {notice : Notice}
    (orderly : desk.Orderly) (backed : Backed desk) (move : Move coordinator desk event notice after) : Backed after := by
  cases move with
  | refused | busy | idle => exact backed
  | brokenOff listed broken =>
    rcases (LockTable.acquire_brokenOff broken).2 with same | ⟨_, _, _, erased⟩
    · exact backed.of_roster rfl same
    · intro action hold held
      rw [erased, Dictionary.find?_erase] at held
      split at held
      next => cases held
      next => exact backed action hold held
  | @sent project action now suffix entry runId locks listed minted granted =>
    intro other hold held
    rw [Desk.roster_launch]
    have before (unchanged : desk.locks.find? other = some hold) :
        ∃ row ∈ desk.roster ++ [(desk.next, ⟨project, action, entry.target, runId, now⟩)],
          row.2.action = other ∧ row.2.hold = hold := by
      obtain ⟨row, rowIn, same⟩ := backed other hold unchanged
      exact ⟨row, List.mem_append_left _ rowIn, same⟩
    cases granted with
    | beside _ _ _ same => exact before (same ▸ held)
    | alone _ after =>
      have found := (after other).symm.trans held
      split at found
      next same =>
        cases found
        exact ⟨_, List.mem_append_right _ (List.mem_singleton.mpr rfl), same.symm, rfl⟩
      next => exact before found
  | answered found => exact backed.of_roster (orderly.roster_replace (Desk.find?_some found).1 rfl rfl) rfl
  | recorded found =>
    have same (ledger : σ) : Desk.Orderly { desk with ledger } := ⟨orderly.rising, orderly.below⟩
    exact backed.of_roster ((same _).roster_replace (Desk.find?_some found).1 rfl rfl) rfl
  | left found => exact backed.left orderly (Desk.find?_some found).1
  | abandoned found => exact backed.of_roster (orderly.roster_replace (Desk.find?_some found).1 rfl rfl) rfl

theorem backed_run (coordinator : Coordinator σ) (desk : Desk σ) (events : List Event) (orderly : desk.Orderly)
    (backed : Backed desk) : Backed (coordinator.run desk events).2 := by
  induction events generalizing desk with
  | nil => exact backed
  | cons event rest ih =>
    have move := step_move coordinator desk event
    rw [run_cons]
    exact ih _ (move.orderly orderly) (move.backed orderly backed)

theorem backed_opened (ledger : σ) : Backed (Desk.opened ledger) := by
  intro action hold held
  cases held

end Coordinator

end SingleFlight
