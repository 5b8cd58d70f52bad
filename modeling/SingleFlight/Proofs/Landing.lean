import SingleFlight.Proofs.Moves
import SingleFlight.Proofs.RunLog

/-!
How a flight lands. From the answer of the gateway on, a flight is taken to its end by steps of its own: the
record that follows from the answer is handed to the ledger, and the caller is told what follows from both.
-/

namespace SingleFlight

open Gateway Ledger Time

variable {σ : Type}

/-- A flight that takes the place of another one of its number is found under that number. -/
theorem Desk.find?_replace (desk : Desk σ) {flight : Flight} (changed : Flight) {number : Nat}
    (found : desk.find? number = some flight) (same : changed.number = number) :
    (desk.replace changed).find? number = some changed := by
  have numbers : ((fun other : Flight => other.number == number) ∘
      fun other => if other.number = changed.number then changed else other) = fun other => other.number == number := by
    funext other
    simp only [Function.comp_apply]
    split
    next equal => rw [equal]
    next => rfl
  unfold Desk.find? at found
  rw [Desk.find?, Desk.replace, List.find?_map, numbers, found, Option.map_some, if_pos]
  have own := List.find?_some found
  simp only [beq_iff_eq] at own
  rw [own, same]

namespace Coordinator

variable {coordinator : Coordinator σ} {desk : Desk σ} {number : Nat} {flight : Flight}

/-- What becomes of a flight that the gateway answers and that is then taken to its end: it leaves with its
record. -/
theorem conclude_leave (response : Response) (finishedAt : Timestamp) (nonce : UInt32)
    (found : desk.find? number = some flight)
    (calling : flight.stage = .calling) :
    let record := flight.execution.record response finishedAt
    let answered := desk.replace { flight with stage := .answered response }
    let landed : Flight := { flight with stage := .recorded record response }
    coordinator.conclude number response finishedAt nonce desk =
      leave landed
        ({ answered with ledger := (coordinator.store.write nonce record desk.ledger).2 }.replace landed) := by
  intro record answered landed
  have own : flight.number = number := (Desk.find?_some found).2
  have answers : coordinator.step desk (.answer number response) = (.nothing, answered) := by
    simp only [step, withFlight, found, answer, calling]
    rfl
  have answeredFound : answered.find? number = some { flight with stage := .answered response } :=
    desk.find?_replace _ found own
  have kept : answered.ledger = desk.ledger := rfl
  generalize answered = answeredDesk at answers answeredFound kept ⊢
  let written : Desk σ := { answeredDesk with ledger := (coordinator.store.write nonce record desk.ledger).2 }
  have records : coordinator.step answeredDesk (.record number finishedAt nonce) =
      (.nothing, written.replace landed) := by
    simp only [step, withFlight, answeredFound, Coordinator.record, kept]
    rfl
  have writtenFound : written.find? number = some { flight with stage := .answered response } := answeredFound
  have recordedFound := written.find?_replace landed writtenFound own
  rw [conclude, run_cons, run_cons, answers]
  dsimp only
  rw [records]
  simp only [run, step, withFlight, recordedFound]
  rfl

/-- What a flight comes to that the gateway answers and that is then taken to its end. -/
theorem conclude_eq (coordinator : Coordinator σ) (response : Response) (finishedAt : Timestamp) (nonce : UInt32)
    (found : desk.find? number = some flight) (calling : flight.stage = .calling) :
    let record := flight.execution.record response finishedAt
    (coordinator.conclude number response finishedAt nonce desk).1 =
      (if flight.isAwaited then .ended (Outcome.ofRecord record response) else .released flight.execution.action) ∧
    (coordinator.conclude number response finishedAt nonce desk).2.ledger =
      (coordinator.store.write nonce record desk.ledger).2 := by
  intro record
  rw [conclude_leave response finishedAt nonce found calling]
  exact ⟨rfl, rfl⟩

/-- Who is still under way once a flight has been taken to its end, and which locks are held. -/
theorem conclude_roster (coordinator : Coordinator σ) (response : Response) (finishedAt : Timestamp)
    (nonce : UInt32)
    (orderly : desk.Orderly) (flightIn : flight ∈ desk.flights) (calling : flight.stage = .calling) :
    (coordinator.conclude flight.number response finishedAt nonce desk).2.roster =
      desk.roster.filter (fun entry => !(entry.1 == flight.number)) ∧
    (coordinator.conclude flight.number response finishedAt nonce desk).2.locks =
      (desk.locks.releaseRun flight.execution.action flight.execution.runId).2 := by
  have found := orderly.find? flightIn
  rw [conclude_leave response finishedAt nonce found calling]
  refine ⟨?_, rfl⟩
  let answered : Flight := { flight with stage := .answered response }
  let landed : Flight := { flight with stage := .recorded (flight.execution.record response finishedAt) response }
  have answers : Move coordinator desk (.answer flight.number response) .nothing (desk.replace answered) :=
    .answered found calling
  have same : (desk.replace answered).roster = desk.roster := orderly.roster_replace flightIn rfl rfl
  have stillOrderly := answers.orderly orderly
  have own : answered.number = flight.number := rfl
  have answeredIn : answered ∈ (desk.replace answered).flights :=
    (orderly.mem_replace flightIn own answered).mpr (.inl rfl)
  let written : Desk σ := { desk.replace answered with
    ledger := (coordinator.store.write nonce (flight.execution.record response finishedAt) desk.ledger).2 }
  have writtenOrderly : written.Orderly := ⟨stillOrderly.rising, stillOrderly.below⟩
  have landedOwn : landed.number = answered.number := rfl
  have landedExecution : landed.execution = answered.execution := rfl
  have sameToo := (writtenOrderly.roster_replace answeredIn landedOwn landedExecution).trans same
  change ((written.replace landed).remove flight.number).roster = _
  rw [Desk.roster_remove, sameToo]

/-- A deployment that the gateway is at work on. -/
def deployment : Flight where
  number := 0
  execution := ⟨"alpha", "deploy", "deploy", ⟨"20260101T000000Z-0001", Eq.refl true⟩, .newYear 0⟩
  stage := .calling
  isAwaited := true

end Coordinator

end SingleFlight
