import SingleFlight.Gateway.Client
import SingleFlight.Proofs.Landing

/-!
From the outcome of an exchange with the gateway to the record of the run and to what its caller is told. Main
statement: the HTTP status decides, and trouble with the exchange is told apart from any answer; what the body
of an answer claims can at most spoil a success.
-/

namespace SingleFlight

open Gateway Ledger Text Time Web

namespace Gateway

variable {ν : Type}

/-- Whether an answer reports a success: its status is no failure, and its content is a response which says
that all went well and has no exit code but zero. -/
def Answer.Succeeds (answer : Answer) : Prop :=
  answer.status < 400 ∧ ∃ spelled, answer.response? = some spelled ∧ spelled.ok = true ∧
    (spelled.exitCode = none ∨ spelled.exitCode = some 0)

namespace Answer

variable {answer : Answer} {elapsed : Milliseconds}

theorem toNat_httpStatus (wellFormed : answer.isWellFormed = true) : answer.httpStatus.toNat = answer.status := by
  simp only [isWellFormed, Bool.and_eq_true, decide_eq_true_eq] at wellFormed
  rw [httpStatus, UInt16.toNat_ofNat']
  exact Nat.mod_eq_of_lt (by omega)

theorem httpStatus_eq_locked (wellFormed : answer.isWellFormed = true) :
    answer.httpStatus = lockedStatus ↔ answer.status = 423 := by
  rw [← toNat_httpStatus wellFormed, ← UInt16.toNat_inj]
  rfl

/-- The three ways in which an answer is read. -/
theorem response_cases (answer : Answer) (elapsed : Milliseconds) :
    (answer.status < 400 ∧ answer.response elapsed = answer.success elapsed) ∨
      (400 ≤ answer.status ∧ answer.httpStatus = lockedStatus ∧ answer.response elapsed = answer.denied elapsed) ∨
      (400 ≤ answer.status ∧ answer.httpStatus ≠ lockedStatus ∧ answer.response elapsed = answer.failed elapsed) := by
  unfold response
  split
  next low => exact .inl ⟨low, rfl⟩
  next high =>
    split
    next locked => exact .inr (.inl ⟨Nat.not_lt.mp high, locked, rfl⟩)
    next other => exact .inr (.inr ⟨Nat.not_lt.mp high, other, rfl⟩)

/-- Whatever the content claims, the status of the response is that of the answer. -/
theorem response_httpStatus (answer : Answer) (elapsed : Milliseconds) :
    (answer.response elapsed).httpStatus = some answer.httpStatus := by
  rcases response_cases answer elapsed with ⟨_, same⟩ | ⟨_, locked, same⟩ | ⟨_, _, same⟩
  · rw [same, success]
    split <;> rfl
  · rw [same, locked]
    rfl
  · rw [same]
    rfl

@[simp]
theorem timed_ok (response : Response) (elapsed : Milliseconds) : (timed response elapsed).ok = response.ok := by
  unfold timed
  split <;> rfl

@[simp]
theorem timed_exitCode (response : Response) (elapsed : Milliseconds) :
    (timed response elapsed).exitCode = response.exitCode := by
  unfold timed
  split <;> rfl

/-- An answer that is a failure by its status is one by its response, and says why. -/
theorem response_of_failure (failure : 400 ≤ answer.status) (elapsed : Milliseconds) :
    (answer.response elapsed).ok = false ∧ (answer.response elapsed).errorClass.isSome = true ∧
      (answer.response elapsed).error.isSome = true := by
  rcases response_cases answer elapsed with ⟨low, _⟩ | ⟨_, _, same⟩ | ⟨_, _, same⟩
  · omega
  · rw [same]
    exact ⟨rfl, rfl, rfl⟩
  · rw [same]
    exact ⟨rfl, rfl, rfl⟩

end Answer

namespace Response

variable {response : Response}

@[simp]
theorem truncateStreams_runStatus (response : Response) : response.truncateStreams.runStatus = response.runStatus := rfl

/-- A run without a verdict ends in error, and only such a run does. -/
theorem runStatus_eq_error : response.runStatus = .error ↔ response.isTransportFailure = true := by
  unfold runStatus
  split
  next failed => simp [failed]
  next verdict =>
    split
    next => simp [verdict]
    next => simp [verdict]

theorem runStatus_eq_success : response.runStatus = .success ↔
    response.ok = true ∧ (response.exitCode = none ∨ response.exitCode = some 0) := by
  have zero : response.exitCode.getD 0 = 0 ↔ response.exitCode = none ∨ response.exitCode = some 0 := by
    cases response.exitCode <;> simp
  unfold runStatus
  split
  next failed =>
    rw [isTransportFailure, Bool.and_eq_true, Bool.not_eq_true'] at failed
    simp [failed.1]
  next =>
    split
    next ended =>
      rw [Bool.and_eq_true, decide_eq_true_eq, zero] at ended
      simp [ended]
    next other =>
      rw [Bool.and_eq_true, decide_eq_true_eq, zero] at other
      simp [other]

/-- What an unsuccessful run with a class and an error is summed up as. -/
theorem errorSummary_of_error {errorClass error : String} (unsuccessful : response.runStatus ≠ .success)
    (isClass : response.errorClass = some errorClass) (isError : response.error = some error) :
    response.errorSummary = some (errorClass ++ ": " ++ error) := by
  have detail : response.failureDetail = some error := by
    rw [failureDetail, isError]
    rfl
  rw [errorSummary, if_neg unsuccessful, isClass, detail]

end Response

theorem runStatus_response (answer : Answer) (elapsed : Milliseconds) :
    (answer.response elapsed).runStatus = .success ↔ answer.Succeeds := by
  rw [Response.runStatus_eq_success]
  rcases Answer.response_cases answer elapsed with ⟨low, same⟩ | ⟨high, _, _⟩ | ⟨high, _, _⟩
  · rw [same, Answer.success, Answer.Succeeds]
    cases spelled : answer.response? with
    | none => simp [Response.failure, Response.blank]
    | some response => simp [low]
  · have failed := (Answer.response_of_failure high elapsed).1
    rw [Answer.Succeeds, failed]
    simp [Nat.not_lt.mpr high]
  · have failed := (Answer.response_of_failure high elapsed).1
    rw [Answer.Succeeds, failed]
    simp [Nat.not_lt.mpr high]

/-- Every answer that is handed on has a status that fits into 16 bits. -/
theorem Network.fetchFollowing_isWellFormed (network : Network ν) (bound : Option Nat) (redirects : Nat) (call : Call)
    (state : ν) {answer : Answer} (fetched : (network.fetchFollowing bound redirects call state).1 = .ok answer) :
    answer.isWellFormed = true := by
  have read {reply : Reply} {answer : Answer} (answered : reply.answer? bound = .ok answer) : answer.isWellFormed = true := by
    unfold Reply.answer? at answered
    split at answered
    next => cases answered
    next => split at answered <;> cases answered
    next => cases answered
    next =>
      split at answered
      next => cases answered
      next =>
        split at answered
        next wellFormed =>
          cases answered
          exact wellFormed
        next => cases answered
  induction redirects generalizing call state with
  | zero =>
    unfold fetchFollowing at fetched
    dsimp only at fetched
    split at fetched
    next => cases fetched
    next first answered =>
      split at fetched
      next =>
        cases fetched
        exact read answered
      next => cases fetched
  | succ redirects ih =>
    unfold fetchFollowing at fetched
    dsimp only at fetched
    split at fetched
    next => cases fetched
    next first answered =>
      split at fetched
      next =>
        cases fetched
        exact read answered
      next =>
        split at fetched
        next => cases fetched
        next =>
          cases fetched
          exact read answered
        next next _ => exact ih next _ fetched

theorem Network.fetch_isWellFormed (network : Network ν) (bound : Option Nat) (address : String) (call : Address → Call)
    (state : ν) {answer : Answer} (fetched : (network.fetch bound address call state).1 = .ok answer) :
    answer.isWellFormed = true := by
  unfold fetch at fetched
  split at fetched
  next => cases fetched
  next =>
    split at fetched
    next => cases fetched
    next =>
      split at fetched
      next => cases fetched
      next => exact network.fetchFollowing_isWellFormed bound _ _ _ fetched

/-- The exchange that a client has with the gateway over a request. -/
def Client.exchange (client : Client) (network : Network ν) (request : Request) (state : ν) : Except Trouble Answer :=
  (network.fetch (client.timeouts.bound request.action) (client.executeUrl request) (client.executeCall request) state).1

theorem Client.execute_eq (client : Client) (network : Network ν) (request : Request) (elapsed : Milliseconds) (state : ν) :
    (client.execute network request elapsed state).1 =
      .ofOutcome (client.timeouts.bound request.action) elapsed (client.exchange network request state) := rfl

end Gateway

/-- How the outcome of an exchange shows in the response, in the record of the run, and in what the caller is
told: by trouble that kept an answer from coming, or by the status and the content of the answer. -/
structure Judged (exchange : Except Trouble Answer) (response : Response) (record : RunRecord) (outcome : Outcome) : Prop where
  httpStatus : response.httpStatus.map UInt16.toNat = exchange.toOption.map Answer.status
  transportFailure : response.isTransportFailure = true ↔ ∃ trouble, exchange = .error trouble
  admissionDenied : response.isAdmissionDenied = true ↔ ∃ answer, exchange = .ok answer ∧ answer.status = 423
  notOk : response.isAdmissionDenied = true → response.ok = false
  apart : ¬(response.isTransportFailure = true ∧ response.isAdmissionDenied = true)
  error : record.status = .error ↔ ∃ trouble, exchange = .error trouble
  success : record.status = .success ↔ ∃ answer, exchange = .ok answer ∧ answer.Succeeds
  failure : record.status = .failure ↔ ∃ answer, exchange = .ok answer ∧ ¬answer.Succeeds
  denied : (∃ denied, outcome = .denied denied) ↔ ∃ answer, exchange = .ok answer ∧ answer.status = 423
  completed : outcome = .completed record response ↔ ¬∃ answer, exchange = .ok answer ∧ answer.status = 423
  summary : ∀ denied, outcome = .denied denied → ∃ detail, record.errorSummary = some (denied.errorClass ++ ": " ++ detail)
  explained : (∀ answer, exchange = .ok answer → 400 ≤ answer.status) →
    response.errorClass.isSome = true ∧ response.error.isSome = true ∧ record.errorSummary.isSome = true
  unexplained : record.status = .success → record.errorSummary = none

namespace Gateway

/-- An answer is judged by its status first. -/
theorem judged_answer {answer : Answer} (wellFormed : answer.isWellFormed = true) (bound : Option Nat)
    (elapsed : Milliseconds) (execution : Execution) (finishedAt : Timestamp) :
    let response := Response.ofOutcome bound elapsed (.ok answer)
    let record := execution.record response finishedAt
    Judged (.ok answer) response record (Outcome.ofRecord record response) := by
  intro response record
  have httpStatus : response.httpStatus = some answer.httpStatus := Answer.response_httpStatus answer elapsed
  have numbered := Answer.toNat_httpStatus wellFormed
  have transport : response.isTransportFailure = false := by
    rw [Response.isTransportFailure, httpStatus, Option.isNone_some, Bool.and_false]
  have denied : response.isAdmissionDenied = true ↔ answer.status = 423 := by
    rw [Response.isAdmissionDenied, decide_eq_true_eq, httpStatus, Option.some_inj, Answer.httpStatus_eq_locked wellFormed]
  have success : record.status = .success ↔ answer.Succeeds := runStatus_response answer elapsed
  have noError : record.status ≠ .error := by
    intro ended
    rw [Response.runStatus_eq_error.mp ended] at transport
    cases transport
  have explained (high : 400 ≤ answer.status) : ∃ errorClass error, response.errorClass = some errorClass ∧
      response.error = some error ∧ record.errorSummary = some (errorClass ++ ": " ++ error) := by
    obtain ⟨failed, isClass, isError⟩ := Answer.response_of_failure high elapsed
    obtain ⟨errorClass, isClass⟩ := Option.isSome_iff_exists.mp isClass
    obtain ⟨error, isError⟩ := Option.isSome_iff_exists.mp isError
    refine ⟨errorClass, error, isClass, isError, Response.errorSummary_of_error ?_ isClass isError⟩
    intro ended
    exact absurd (success.mp ended).1 (Nat.not_lt.mpr high)
  have told : Outcome.ofRecord record response = if response.isAdmissionDenied = true then
      .denied ⟨response.errorClass.getD deniedClass, response.requiredCondition, record.runId, response.directory⟩
      else .completed record response := rfl
  constructor
  case httpStatus => rw [httpStatus, Option.map_some, numbered]; rfl
  case transportFailure => simp [transport]
  case admissionDenied => simp [denied]
  case notOk =>
    intro locked
    exact (Answer.response_of_failure (by rw [denied.mp locked]; decide) elapsed).1
  case apart => simp [transport]
  case error => simp [noError]
  case success => simp [success]
  case failure =>
    cases ended : record.status with
    | error => exact absurd ended noError
    | success => simp [success.mp ended]
    | failure => simp [mt success.mpr (by simp [ended])]
  case denied =>
    rw [told]
    by_cases locked : response.isAdmissionDenied = true
    · simp [locked, denied.mp locked]
    · simp [locked, mt denied.mpr locked]
  case completed =>
    rw [told]
    by_cases locked : response.isAdmissionDenied = true
    · simp [locked, denied.mp locked]
    · simp [locked, mt denied.mpr locked]
  case summary =>
    intro refusal same
    rw [told] at same
    split at same
    next locked =>
      cases same
      obtain ⟨errorClass, error, isClass, _, summary⟩ := explained (by rw [denied.mp locked]; decide)
      refine ⟨error, ?_⟩
      rw [summary, isClass, Option.getD_some]
    next => cases same
  case explained =>
    intro high
    obtain ⟨errorClass, error, isClass, isError, summary⟩ := explained (high answer rfl)
    rw [isClass, isError, summary]
    exact ⟨rfl, rfl, rfl⟩
  case unexplained => exact fun ended => if_pos ended

/-- Trouble is judged as a failure of the exchange, whatever it was. -/
theorem judged_trouble (trouble : Trouble) (bound : Option Nat) (elapsed : Milliseconds) (execution : Execution)
    (finishedAt : Timestamp) :
    let response := Response.ofOutcome bound elapsed (.error trouble)
    let record := execution.record response finishedAt
    Judged (.error trouble) response record (Outcome.ofRecord record response) := by
  intro response record
  obtain ⟨errorClass, error, failed⟩ : ∃ errorClass error, response = Response.failure errorClass error elapsed := by
    unfold response Response.ofOutcome Trouble.response
    dsimp only
    split
    next => exact ⟨_, _, rfl⟩
    next => exact ⟨_, _, rfl⟩
  have transport : response.isTransportFailure = true := by rw [failed]; rfl
  have denied : response.isAdmissionDenied = false := by rw [failed]; rfl
  have ended : record.status = .error := Response.runStatus_eq_error.mpr transport
  have summary : record.errorSummary = some (errorClass ++ ": " ++ error) := by
    apply Response.errorSummary_of_error
    · intro success
      rw [show response.runStatus = .error from ended] at success
      cases success
    · rw [failed]; rfl
    · rw [failed]; rfl
  have told : Outcome.ofRecord record response = .completed record response := by
    rw [Outcome.ofRecord, denied]
    rfl
  constructor
  case httpStatus => rw [failed]; rfl
  case transportFailure => simp [transport]
  case admissionDenied => simp [denied]
  case notOk => simp [denied]
  case apart => simp [denied]
  case error => simp [ended]
  case success => simp [ended]
  case failure => simp [ended]
  case denied => simp [told]
  case completed => simp [told]
  case summary => simp [told]
  case explained =>
    intro _
    rw [summary, failed]
    exact ⟨rfl, rfl, rfl⟩
  case unexplained => simp [ended]

end Gateway

namespace Coordinator

variable {σ ν : Type}

/-- However an exchange with the gateway comes out, the response, the record that is written and what the waiting
caller is told are judged by it. -/
theorem exchange_judged (coordinator : Coordinator σ) (client : Client) (network : Network ν) (elapsed : Milliseconds)
    (state : ν) {desk : Desk σ} {number : Nat} {flight : Flight} (finishedAt : Timestamp) (nonce : UInt32)
    (found : desk.find? number = some flight) (calling : flight.stage = .calling) (awaited : flight.isAwaited = true) :
    let request := flight.execution.request
    let response := (client.execute network request elapsed state).1
    let record := flight.execution.record response finishedAt
    ∃ outcome, (coordinator.conclude number response finishedAt nonce desk).1 = .ended outcome ∧
      (coordinator.conclude number response finishedAt nonce desk).2.ledger =
        (coordinator.store.write nonce record desk.ledger).2 ∧
      Judged (client.exchange network request state) response record outcome := by
  intro request response record
  obtain ⟨told, ledger⟩ := coordinator.conclude_eq response finishedAt nonce found calling
  rw [if_pos awaited] at told
  refine ⟨_, told, ledger, ?_⟩
  have executed : response = .ofOutcome (client.timeouts.bound request.action) elapsed (client.exchange network request state) :=
    client.execute_eq network request elapsed state
  cases exchanged : client.exchange network request state with
  | error trouble =>
    rw [exchanged] at executed
    unfold record
    rw [executed]
    exact judged_trouble trouble _ elapsed flight.execution finishedAt
  | ok answer =>
    rw [exchanged] at executed
    unfold record
    rw [executed]
    exact judged_answer (network.fetch_isWellFormed _ _ _ _ exchanged) _ elapsed flight.execution finishedAt

/-- The answer of a gateway that refuses a run, and claims in the body that it went well. -/
def lockedAnswer : Answer := ⟨423, none, Utf8.ofString "\x7b\"ok\":true,\"http_status\":200,\"error_class\":\"CLOSED\"\x7d"⟩

def lockedNetwork : Network Unit := ⟨fun _ _ state => (.answered lockedAnswer, state)⟩

/-- The answer of a gateway at which a run went well. -/
def openAnswer : Answer := ⟨200, none, Utf8.ofString "\x7b\"ok\":true,\"exit_code\":0\x7d"⟩

def openNetwork : Network Unit := ⟨fun _ _ state => (.answered openAnswer, state)⟩

theorem succeeds_openAnswer : openAnswer.Succeeds :=
  ⟨by decide, { Response.blank with ok := true, exitCode := some 0 }, by decide +kernel, rfl, .inr rfl⟩

/-- A client for a gateway on the loopback host. -/
def loopClient : Client := Client.of "http://[::1]" none .standard .standard

theorem exchange_openNetwork :
    loopClient.exchange openNetwork deployment.execution.request () = .ok openAnswer := by
  have leads : (Address.ofText? (loopClient.executeUrl deployment.execution.request)).isSome = true := by decide
  obtain ⟨address, read⟩ := Option.isSome_iff_exists.mp leads
  unfold Client.exchange Network.fetch
  rw [read]
  rfl

/-- A gateway that refuses a run is not heard on what the body claims, and one that reports a success in full is. -/
theorem exchange_judged_replies :
    let desk : Desk (List RunRecord) := ⟨LockTable.empty, [], [deployment], 1⟩
    let locked := (loopClient.execute lockedNetwork deployment.execution.request 7 ()).1
    let opened := (loopClient.execute openNetwork deployment.execution.request 7 ()).1
    let lockedRecord := deployment.execution.record locked (.newYear 1000000000)
    let openedRecord := deployment.execution.record opened (.newYear 1000000000)
    desk.find? 0 = some deployment ∧ deployment.stage = .calling ∧ deployment.isAwaited = true ∧
    (∃ outcome, (ofDeployment.conclude 0 locked (.newYear 1000000000) 5 desk).1 = .ended outcome ∧
      (ofDeployment.conclude 0 locked (.newYear 1000000000) 5 desk).2.ledger =
        (ofDeployment.store.write 5 lockedRecord desk.ledger).2 ∧
      Judged (loopClient.exchange lockedNetwork deployment.execution.request ()) locked lockedRecord outcome) ∧
    openAnswer.status = 200 ∧ (openAnswer.response?.map (·.ok)) = some true ∧
    openedRecord.status = .success ∧ openedRecord.errorSummary = none := by
  intro desk locked opened lockedRecord openedRecord
  have found : desk.find? 0 = some deployment := rfl
  obtain ⟨_, _, _, judged⟩ :=
    ofDeployment.exchange_judged loopClient openNetwork 7 () (.newYear 1000000000) 5 found rfl rfl
  have success : openedRecord.status = .success :=
    judged.success.mpr ⟨openAnswer, exchange_openNetwork, succeeds_openAnswer⟩
  exact ⟨found, rfl, rfl, ofDeployment.exchange_judged loopClient lockedNetwork 7 () _ 5 found rfl rfl,
    rfl, by decide +kernel, success, judged.unexplained success⟩

end Coordinator

end SingleFlight
