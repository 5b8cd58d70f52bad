import Mathlib.Data.List.Basic
import SingleFlight.Proofs.Moves
import SingleFlight.Proofs.RunLog

/-!
Runs do not depend on the ledger. What is left of a desk when its ledger is left out takes the same steps
by itself, by the same rules and with a store that is out of order. So two desks that differ only in
their ledgers, one of which may keep nothing of what it is given, behave alike from then on.
-/

namespace SingleFlight

open Gateway Ledger Time

variable {σ τ γ : Type}

/-- A store that is out of order: nothing can be put in or read. -/
def Ledger.RunStore.outOfOrder : RunStore Unit where
  append _ record state := (.error (.fileStore "append" .busy (some record.runId)), state)
  get runId state := (.error (.fileStore "get" .busy (some runId)), state)
  listRecent _ _ state := (.error (.fileStore "list" .busy none), state)

namespace Desk

def withoutLedger (desk : Desk σ) : Desk Unit := ⟨desk.locks, (), desk.flights, desk.next⟩

@[simp]
theorem find?_withoutLedger (desk : Desk σ) (number : Nat) : desk.withoutLedger.find? number = desk.find? number := rfl

end Desk

/-- An event with the number of an append, which only the store reads, left out. -/
def Event.withoutNonce : Event → Event
  | .record number finishedAt _ => .record number finishedAt 0
  | event => event

namespace Coordinator

def withoutStore (coordinator : Coordinator σ) : Coordinator Unit := ⟨coordinator.catalog, coordinator.policy, .outOfOrder⟩

theorem call_withoutLedger (coordinator : Coordinator σ) (project : Project) (action : Action) (now : Timestamp)
    (suffix : UInt16) (desk : Desk σ) :
    coordinator.withoutStore.call project action now suffix desk.withoutLedger =
      ((coordinator.call project action now suffix desk).1,
        (coordinator.call project action now suffix desk).2.withoutLedger) := by
  simp only [call, withoutStore, Desk.withoutLedger]
  cases coordinator.catalog.resolve project action with
  | error fault => rfl
  | ok entry =>
    rcases LockTable.acquire coordinator.policy desk.locks action now suffix with ⟨admission, locks⟩
    cases admission <;> rfl

theorem answer_withoutLedger (flight : Flight) (response : Response) (desk : Desk σ) :
    answer flight response desk.withoutLedger =
      ((answer flight response desk).1, (answer flight response desk).2.withoutLedger) := by
  unfold answer
  cases flight.stage <;> rfl

/-- The record that a flight lands with is the same, whatever the store does with it. -/
theorem record_withoutLedger (coordinator : Coordinator σ) (flight : Flight) (finishedAt : Timestamp)
    (nonce : UInt32) (desk : Desk σ) :
    coordinator.withoutStore.record flight finishedAt 0 desk.withoutLedger =
      ((coordinator.record flight finishedAt nonce desk).1,
        (coordinator.record flight finishedAt nonce desk).2.withoutLedger) := by
  unfold record
  cases flight.stage <;> rfl

theorem leave_withoutLedger (flight : Flight) (desk : Desk σ) :
    leave flight desk.withoutLedger = ((leave flight desk).1, (leave flight desk).2.withoutLedger) := by
  unfold leave
  cases flight.stage <;> rfl

theorem abandon_withoutLedger (flight : Flight) (desk : Desk σ) :
    abandon flight desk.withoutLedger = ((abandon flight desk).1, (abandon flight desk).2.withoutLedger) := rfl

/-- Work that does the same with and without a ledger for each flight does so for the flight of a number. -/
theorem withFlight_withoutLedger (number : Nat) (desk : Desk σ) {work : Flight → Desk σ → Notice × Desk σ}
    {workWithout : Flight → Desk Unit → Notice × Desk Unit}
    (same : ∀ flight, workWithout flight desk.withoutLedger = ((work flight desk).1, (work flight desk).2.withoutLedger)) :
    withFlight number desk.withoutLedger workWithout =
      ((withFlight number desk work).1, (withFlight number desk work).2.withoutLedger) := by
  simp only [withFlight, Desk.find?_withoutLedger]
  cases desk.find? number with
  | none => rfl
  | some flight => exact same flight

theorem step_withoutLedger (coordinator : Coordinator σ) (desk : Desk σ) (event : Event) :
    coordinator.withoutStore.step desk.withoutLedger event.withoutNonce =
      ((coordinator.step desk event).1, (coordinator.step desk event).2.withoutLedger) := by
  cases event with
  | call project action now suffix => exact call_withoutLedger coordinator project action now suffix desk
  | answer number response => exact withFlight_withoutLedger number desk (answer_withoutLedger · response desk)
  | record number finishedAt nonce =>
    exact withFlight_withoutLedger number desk (record_withoutLedger coordinator · finishedAt nonce desk)
  | leave number => exact withFlight_withoutLedger number desk (leave_withoutLedger · desk)
  | abandon number => exact withFlight_withoutLedger number desk (abandon_withoutLedger · desk)

theorem run_withoutLedger (coordinator : Coordinator σ) (desk : Desk σ) (events : List Event) :
    coordinator.withoutStore.run desk.withoutLedger (events.map Event.withoutNonce) =
      ((coordinator.run desk events).1, (coordinator.run desk events).2.withoutLedger) := by
  induction events generalizing desk with
  | nil => rfl
  | cons event rest ih => simp only [List.map_cons, run_cons, step_withoutLedger, ih]

theorem conclude_withoutLedger (coordinator : Coordinator σ) (number : Nat) (response : Response) (finishedAt : Timestamp)
    (nonce : UInt32) (desk : Desk σ) :
    coordinator.withoutStore.conclude number response finishedAt 0 desk.withoutLedger =
      ((coordinator.conclude number response finishedAt nonce desk).1,
        (coordinator.conclude number response finishedAt nonce desk).2.withoutLedger) := by
  have landed := run_withoutLedger coordinator desk [.answer number response, .record number finishedAt nonce]
  simp only [List.map_cons, List.map_nil, Event.withoutNonce] at landed
  simp only [conclude, landed]
  exact step_withoutLedger coordinator _ (.leave number)

/-- An invocation asks the same of the gateway and leaves it in the same state. -/
theorem invoke_withoutLedger (coordinator : Coordinator σ) (gateway : Request → γ → Response × γ) (project : Project)
    (action : Action) (now finishedAt : Timestamp) (suffix : UInt16) (nonce : UInt32) (desk : Desk σ) (state : γ) :
    coordinator.withoutStore.invoke gateway project action now finishedAt suffix 0 desk.withoutLedger state =
      ((coordinator.invoke gateway project action now finishedAt suffix nonce desk state).1,
        (coordinator.invoke gateway project action now finishedAt suffix nonce desk state).2.1.withoutLedger,
        (coordinator.invoke gateway project action now finishedAt suffix nonce desk state).2.2) := by
  have called := step_withoutLedger coordinator desk (.call project action now suffix)
  simp only [Event.withoutNonce] at called
  simp only [invoke, called]
  rcases coordinator.step desk (.call project action now suffix) with ⟨notice, after⟩
  cases notice with
  | sent number request => simp only [conclude_withoutLedger coordinator number _ finishedAt nonce]
  | _ => rfl

variable {first : Coordinator σ} {second : Coordinator τ} {firstDesk : Desk σ} {secondDesk : Desk τ}

/-- Whoever starts alike and goes through the same is alike in the end, but for the ledgers. -/
theorem run_alike (sameRules : first.withoutStore = second.withoutStore)
    (sameDesk : firstDesk.withoutLedger = secondDesk.withoutLedger) {firstEvents secondEvents : List Event}
    (sameEvents : firstEvents.map Event.withoutNonce = secondEvents.map Event.withoutNonce) :
    (first.run firstDesk firstEvents).1 = (second.run secondDesk secondEvents).1 ∧
      (first.run firstDesk firstEvents).2.withoutLedger = (second.run secondDesk secondEvents).2.withoutLedger := by
  rw [← Prod.mk.injEq]
  calc
    _ = first.withoutStore.run firstDesk.withoutLedger (firstEvents.map Event.withoutNonce) :=
      (run_withoutLedger first firstDesk firstEvents).symm
    _ = second.withoutStore.run secondDesk.withoutLedger (secondEvents.map Event.withoutNonce) := by
      rw [sameRules, sameDesk, sameEvents]
    _ = _ := run_withoutLedger second secondDesk secondEvents

theorem invoke_alike (sameRules : first.withoutStore = second.withoutStore)
    (sameDesk : firstDesk.withoutLedger = secondDesk.withoutLedger) (gateway : Request → γ → Response × γ)
    (project : Project) (action : Action) (now finishedAt : Timestamp) (suffix : UInt16) (firstNonce secondNonce : UInt32)
    (state : γ) :
    (first.invoke gateway project action now finishedAt suffix firstNonce firstDesk state).1 =
        (second.invoke gateway project action now finishedAt suffix secondNonce secondDesk state).1 ∧
      (first.invoke gateway project action now finishedAt suffix firstNonce firstDesk state).2.1.withoutLedger =
        (second.invoke gateway project action now finishedAt suffix secondNonce secondDesk state).2.1.withoutLedger ∧
      (first.invoke gateway project action now finishedAt suffix firstNonce firstDesk state).2.2 =
        (second.invoke gateway project action now finishedAt suffix secondNonce secondDesk state).2.2 := by
  rw [← Prod.mk.injEq, ← Prod.mk.injEq]
  calc
    _ = first.withoutStore.invoke gateway project action now finishedAt suffix 0 firstDesk.withoutLedger state :=
      (invoke_withoutLedger first gateway project action now finishedAt suffix firstNonce firstDesk state).symm
    _ = second.withoutStore.invoke gateway project action now finishedAt suffix 0 secondDesk.withoutLedger state := by
      rw [sameRules, sameDesk]
    _ = _ := invoke_withoutLedger second gateway project action now finishedAt suffix secondNonce secondDesk state

/-- What two courses of steps have in common: all that callers and the gateway see of them, and all that is kept
of them outside the ledger. -/
structure SameCourse (first : Coordinator σ) (second : Coordinator τ) (firstDesk : Desk σ) (secondDesk : Desk τ)
    (firstEvents secondEvents : List Event) : Prop where
  /-- Refusals, outcomes with their records and responses, and requests of the gateway. -/
  notices : (first.run firstDesk firstEvents).1 = (second.run secondDesk secondEvents).1
  locks : ∀ count, (first.run firstDesk (firstEvents.take count)).2.locks =
    (second.run secondDesk (secondEvents.take count)).2.locks
  flights : ∀ count, (first.run firstDesk (firstEvents.take count)).2.flights =
    (second.run secondDesk (secondEvents.take count)).2.flights
  /-- An invocation that comes next, from its call to its end, with a gateway that may remember what it was asked. -/
  invoked : ∀ (γ : Type) (gateway : Request → γ → Response × γ) project action now finishedAt suffix firstNonce
    secondNonce state,
    let firstEnd := first.invoke gateway project action now finishedAt suffix firstNonce
      (first.run firstDesk firstEvents).2 state
    let secondEnd := second.invoke gateway project action now finishedAt suffix secondNonce
      (second.run secondDesk secondEvents).2 state
    firstEnd.1 = secondEnd.1 ∧ firstEnd.2.1.locks = secondEnd.2.1.locks ∧ firstEnd.2.2 = secondEnd.2.2

/-- Two coordinators with the same rules, whatever stores they have, at desks that are alike but for their
ledgers: when they go through the same calls, answers, records, departures and callers who do not wait, nobody
can tell from either of them what has become of its ledger. -/
theorem same_course (sameRules : first.withoutStore = second.withoutStore)
    (sameDesk : firstDesk.withoutLedger = secondDesk.withoutLedger) (firstEvents secondEvents : List Event)
    (sameEvents : firstEvents.map Event.withoutNonce = secondEvents.map Event.withoutNonce) :
    SameCourse first second firstDesk secondDesk firstEvents secondEvents := by
  have alike := run_alike sameRules sameDesk sameEvents
  have early (count : Nat) : (first.run firstDesk (firstEvents.take count)).2.withoutLedger =
      (second.run secondDesk (secondEvents.take count)).2.withoutLedger := by
    apply (run_alike sameRules sameDesk _).2
    rw [List.map_take, List.map_take, sameEvents]
  constructor
  · exact alike.1
  · intro count
    exact congrArg Desk.locks (early count)
  · intro count
    exact congrArg Desk.flights (early count)
  · intro γ gateway project action now finishedAt suffix firstNonce secondNonce state
    obtain ⟨notice, desks, heard⟩ :=
      invoke_alike sameRules alike.2 gateway project action now finishedAt suffix firstNonce secondNonce state
    exact ⟨notice, congrArg Desk.locks desks, heard⟩

/-- A deployment that somebody else asks for too, from its call to its end. -/
def joinedDeployment (nonce : UInt32) : List Event :=
  [.call "alpha" "deploy" (.newYear 0) 1, .call "alpha" "deploy" (.newYear 500000000) 2,
    .answer 0 .blank, .record 0 (.newYear 1000000000) nonce, .leave 0]

theorem same_course_joined :
    ofDeployment.withoutStore = ofDeployment.withoutStore.withoutStore ∧
    (Desk.opened ([] : List RunRecord)).withoutLedger = (Desk.opened ()).withoutLedger ∧
    (joinedDeployment 7).map Event.withoutNonce = (joinedDeployment 8).map Event.withoutNonce ∧
    (ofDeployment.run (Desk.opened []) (joinedDeployment 7)).2.ledger.length = 1 ∧
    (∀ record, (ofDeployment.withoutStore.store.write 8 record ()).1 = none) ∧
    SameCourse ofDeployment ofDeployment.withoutStore (Desk.opened []) (Desk.opened ()) (joinedDeployment 7) (joinedDeployment 8) := by
  have sameRules : ofDeployment.withoutStore = ofDeployment.withoutStore.withoutStore := rfl
  have sameDesk : (Desk.opened ([] : List RunRecord)).withoutLedger = (Desk.opened ()).withoutLedger := rfl
  have sameEvents : (joinedDeployment 7).map Event.withoutNonce = (joinedDeployment 8).map Event.withoutNonce := rfl
  refine ⟨sameRules, sameDesk, sameEvents, ?_, fun record => rfl, same_course sameRules sameDesk _ _ sameEvents⟩
  decide +kernel

end Coordinator

end SingleFlight
