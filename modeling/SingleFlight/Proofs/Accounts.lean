import Mathlib.Data.List.Basic
import SingleFlight.Proofs.Moves
import SingleFlight.Proofs.RunLog

/-!
What there is to show for the runs that were admitted. Between two steps a run that was admitted either
owes its record, and then it is under way, or the record has been written; what is in the ledger beyond
that was there before.
-/

namespace SingleFlight

open Gateway Ledger Time

variable {σ : Type}

/-- A store whose appending succeeds for ids that it does not hold yet, where `records` is what it holds. -/
structure Ledger.RunStore.Keeps (store : RunStore σ) (records : σ → List RunRecord) : Prop where
  append : ∀ nonce record state, record.runId ∉ (records state).map (·.runId) →
    (store.append nonce record state).1 = .ok () ∧
      records (store.append nonce record state).2 = records state ++ [record]

theorem Ledger.RunLog.keeps : RunLog.store.Keeps id where
  append nonce record log absent := by
    have appended := RunLog.append_of_absent absent
    exact ⟨congrArg Prod.fst appended, congrArg Prod.snd appended⟩

/-- Writing is appending, whatever is done with the answer. -/
theorem Ledger.RunStore.Keeps.write {store : RunStore σ} {records : σ → List RunRecord} (keeps : store.Keeps records)
    (nonce : UInt32) (record : RunRecord) {state : σ} (absent : record.runId ∉ (records state).map (·.runId)) :
    records (store.write nonce record state).2 = records state ++ [record] := by
  have appended := (keeps.append nonce record state absent).2
  unfold RunStore.write
  split <;> simpa [*] using appended

theorem Catalog.action_of_resolve {catalog : Catalog} {project : Project} {action : Action} {entry : CatalogEntry}
    (listed : catalog.resolve project action = .ok entry) : entry.action = action := by
  unfold Catalog.resolve at listed
  split at listed
  next => cases listed
  next =>
    split at listed
    next =>
      cases listed
      rfl
    next => cases listed

/-- Whether a ledger holds one record under the id of an execution, and that one was made for it. -/
def Execution.IsRecorded (execution : Execution) (records : List RunRecord) : Prop :=
  ∃ response finishedAt, records.filter (·.runId = execution.runId) = [execution.record response finishedAt]

namespace Desk

/-- Whether the flight of a number is under way with its record still to be written. -/
def Owes (desk : Desk σ) (number : Nat) : Prop :=
  ∃ flight ∈ desk.flights, flight.number = number ∧ flight.stage.isRecorded = false

variable {desk : Desk σ} {flight other : Flight}

theorem Orderly.owes_replace (orderly : desk.Orderly) (flightIn : flight ∈ desk.flights)
    (same : other.number = flight.number) (number : Nat) :
    (desk.replace other).Owes number ↔
      if number = flight.number then other.stage.isRecorded = false else desk.Owes number := by
  unfold Owes
  simp only [orderly.mem_replace flightIn same]
  split
  next its =>
    subst its
    constructor
    · intro given
      obtain ⟨third, rfl | ⟨thirdIn, different⟩, sameNumber, owing⟩ := given
      · exact owing
      · exact absurd (orderly.unique thirdIn flightIn sameNumber) different
    · intro owing
      exact ⟨other, .inl rfl, same, owing⟩
  next others =>
    constructor
    · intro given
      obtain ⟨third, rfl | ⟨thirdIn, _⟩, sameNumber, owing⟩ := given
      · exact absurd (sameNumber.symm.trans same) others
      · exact ⟨third, thirdIn, sameNumber, owing⟩
    · intro given
      obtain ⟨third, thirdIn, sameNumber, owing⟩ := given
      refine ⟨third, .inr ⟨thirdIn, ?_⟩, sameNumber, owing⟩
      intro same
      subst same
      exact others sameNumber.symm

/-- A step of a flight that leaves it on the same side of its record changes nothing in what is owed. -/
theorem Orderly.owes_replace_of_same (orderly : desk.Orderly) (flightIn : flight ∈ desk.flights)
    (same : other.number = flight.number) (sameSide : other.stage.isRecorded = flight.stage.isRecorded) (number : Nat) :
    (desk.replace other).Owes number ↔ desk.Owes number := by
  rw [orderly.owes_replace flightIn same]
  split
  next its =>
    subst its
    rw [sameSide]
    constructor
    · intro owing
      exact ⟨flight, flightIn, rfl, owing⟩
    · intro given
      obtain ⟨third, thirdIn, sameNumber, owing⟩ := given
      obtain rfl := orderly.unique thirdIn flightIn sameNumber
      exact owing
  next => exact Iff.rfl

/-- A flight that lands with its record owes it no longer. -/
theorem Orderly.owes_recorded (orderly : desk.Orderly) (flightIn : flight ∈ desk.flights) (ledger : σ)
    (record : RunRecord) (response : Response) (number : Nat) :
    ({ desk with ledger }.replace { flight with stage := .recorded record response }).Owes number ↔
      number ≠ flight.number ∧ desk.Owes number := by
  have same : Desk.Orderly { desk with ledger } := ⟨orderly.rising, orderly.below⟩
  rw [same.owes_replace flightIn]
  · split
    next its => simp [Stage.isRecorded, its]
    next others => exact (and_iff_right others).symm
  · rfl

theorem owes_launch (desk : Desk σ) (execution : Execution) (number : Nat) :
    (desk.launch execution).Owes number ↔ desk.Owes number ∨ number = desk.next := by
  unfold Owes
  simp only [mem_launch]
  constructor
  · intro given
    obtain ⟨third, thirdIn | rfl, sameNumber, owing⟩ := given
    · exact .inl ⟨third, thirdIn, sameNumber, owing⟩
    · exact .inr sameNumber.symm
  · intro either
    rcases either with ⟨third, thirdIn, sameNumber, owing⟩ | rfl
    · exact ⟨third, .inl thirdIn, sameNumber, owing⟩
    · exact ⟨_, .inr rfl, rfl, rfl⟩

/-- A flight whose record is written leaves no debt behind. -/
theorem Orderly.owes_remove (orderly : desk.Orderly) (flightIn : flight ∈ desk.flights)
    (recorded : flight.stage.isRecorded = true) (number : Nat) :
    (desk.remove flight.number).Owes number ↔ desk.Owes number := by
  unfold Owes
  simp only [mem_remove]
  constructor
  · intro given
    obtain ⟨third, ⟨thirdIn, _⟩, sameNumber, owing⟩ := given
    exact ⟨third, thirdIn, sameNumber, owing⟩
  · intro given
    obtain ⟨third, thirdIn, sameNumber, owing⟩ := given
    refine ⟨third, ⟨thirdIn, ?_⟩, sameNumber, owing⟩
    intro gone
    obtain rfl := orderly.unique thirdIn flightIn gone
    rw [recorded] at owing
    cases owing

end Desk

namespace Coordinator

/-- What holds of the ledger and the flights when certain executions were admitted so far, under their
numbers, and certain records were written for them. -/
structure Accounts (records : σ → List RunRecord) (initial : List RunRecord) (admitted : List (Nat × Execution))
    (written : List RunRecord) (desk : Desk σ) : Prop where
  orderly : desk.Orderly
  numbered : admitted.map (·.1) = List.range desk.next
  known : ∀ entry ∈ desk.roster, entry ∈ admitted
  ledger : records desk.ledger = initial ++ written
  distinct : (written.map (·.runId)).Nodup
  owned : ∀ record ∈ written, ∃ entry ∈ admitted, ∃ response finishedAt,
    record = entry.2.record response finishedAt
  settled : ∀ entry ∈ admitted, entry.2.runId ∈ written.map (·.runId) ↔ ¬desk.Owes entry.1

variable {coordinator : Coordinator σ} {records : σ → List RunRecord} {initial written : List RunRecord}
  {admitted : List (Nat × Execution)} {desk after : Desk σ}

/-- Nothing is owed to or by the ledger that was not before. -/
theorem Accounts.of_same (accounts : Accounts records initial admitted written desk) (orderly : after.Orderly)
    (roster : after.roster.Sublist desk.roster) (next : after.next = desk.next) (ledger : after.ledger = desk.ledger)
    (owes : ∀ number, after.Owes number ↔ desk.Owes number) : Accounts records initial admitted written after where
  orderly := orderly
  numbered := by rw [next, accounts.numbered]
  known entry entryIn := accounts.known entry (roster.subset entryIn)
  ledger := by rw [ledger, accounts.ledger]
  distinct := accounts.distinct
  owned := accounts.owned
  settled entry entryIn := by rw [owes, accounts.settled entry entryIn]

theorem Accounts.number_lt (accounts : Accounts records initial admitted written desk) {entry : Nat × Execution}
    (entryIn : entry ∈ admitted) : entry.1 < desk.next := by
  have numberIn : entry.1 ∈ admitted.map (·.1) := List.mem_map_of_mem entryIn
  rw [accounts.numbered] at numberIn
  exact List.mem_range.mp numberIn

/-- Numbers tell executions apart. -/
theorem Accounts.unique (accounts : Accounts records initial admitted written desk) {entry other : Nat × Execution}
    (entryIn : entry ∈ admitted) (otherIn : other ∈ admitted) (same : entry.1 = other.1) : entry = other := by
  have distinct : (admitted.map (·.1)).Nodup := by
    rw [accounts.numbered]
    exact List.nodup_range
  exact List.inj_on_of_nodup_map distinct entryIn otherIn same

theorem Accounts.sent (accounts : Accounts records initial admitted written desk) {execution : Execution}
    (locks : LockTable) (orderly : ({ desk with locks }.launch execution).Orderly)
    (newId : execution.runId ∉ admitted.map (·.2.runId)) :
    Accounts records initial (admitted ++ [(desk.next, execution)]) written ({ desk with locks }.launch execution) where
  orderly := orderly
  numbered := by
    rw [List.map_append, accounts.numbered]
    exact List.range_succ.symm
  known entry entryIn := by
    rw [Desk.roster_launch] at entryIn
    rcases List.mem_append.mp entryIn with before | new
    · exact List.mem_append_left _ (accounts.known entry before)
    · exact List.mem_append_right _ new
  ledger := accounts.ledger
  distinct := accounts.distinct
  owned record recordIn := by
    obtain ⟨entry, entryIn, made⟩ := accounts.owned record recordIn
    exact ⟨entry, List.mem_append_left _ entryIn, made⟩
  settled entry entryIn := by
    rw [Desk.owes_launch]
    rcases List.mem_append.mp entryIn with before | new
    · rw [accounts.settled entry before]
      have different : entry.1 ≠ desk.next := Nat.ne_of_lt (accounts.number_lt before)
      constructor
      · intro notOwed either
        rcases either with owed | its
        · exact notOwed owed
        · exact different its
      · intro notOwed owed
        exact notOwed (.inl owed)
    · obtain rfl := List.mem_singleton.mp new
      constructor
      · intro idIn
        obtain ⟨record, recordIn, sameId⟩ := List.mem_map.mp idIn
        obtain ⟨other, otherIn, _, _, rfl⟩ := accounts.owned record recordIn
        exact absurd (List.mem_map.mpr ⟨other, otherIn, sameId⟩) newId
      · intro notOwed
        exact absurd (.inr rfl) notOwed

/-- The record of a flight that owes one lands in the ledger as it is. -/
theorem Accounts.recorded (accounts : Accounts records initial admitted written desk)
    (distinctIds : (admitted.map (·.2.runId)).Nodup)
    (fresh : ∀ entry ∈ admitted, entry.2.runId ∉ initial.map (·.runId)) (keeps : coordinator.store.Keeps records)
    {flight : Flight} (flightIn : flight ∈ desk.flights) (owing : flight.stage.isRecorded = false)
    {nonce : UInt32} {finishedAt : Timestamp} {response : Response} (orderly : after.Orderly)
    (roster : after.roster = desk.roster) (next : after.next = desk.next)
    (ledger : after.ledger =
      (coordinator.store.write nonce (flight.execution.record response finishedAt) desk.ledger).2)
    (owes : ∀ number, after.Owes number ↔ number ≠ flight.number ∧ desk.Owes number) :
    Accounts records initial admitted (written ++ [flight.execution.record response finishedAt]) after := by
  have known := accounts.known (flight.number, flight.execution) (Desk.mem_roster.mpr ⟨flight, flightIn, rfl⟩)
  have owed : desk.Owes flight.number := ⟨flight, flightIn, rfl, owing⟩
  have notWritten : flight.execution.runId ∉ written.map (·.runId) :=
    fun idIn => (accounts.settled _ known).mp idIn owed
  have absent : flight.execution.runId ∉ (records desk.ledger).map (·.runId) := by
    rw [accounts.ledger, List.map_append, List.mem_append, not_or]
    exact ⟨fresh _ known, notWritten⟩
  refine ⟨orderly, ?_, ?_, ?_, ?_, ?_, ?_⟩
  · rw [next, accounts.numbered]
  · rw [roster]
    exact accounts.known
  · have landed := keeps.write nonce (flight.execution.record response finishedAt) absent
    rw [ledger, landed, accounts.ledger, List.append_assoc]
  · rw [List.map_append, List.nodup_append]
    refine ⟨accounts.distinct, List.nodup_singleton _, ?_⟩
    intro first firstIn second secondIn same
    subst same
    obtain rfl := List.mem_singleton.mp secondIn
    exact notWritten firstIn
  · intro record recordIn
    rcases List.mem_append.mp recordIn with before | new
    · exact accounts.owned record before
    · exact ⟨_, known, response, finishedAt, List.mem_singleton.mp new⟩
  · intro entry entryIn
    rw [owes, List.map_append, List.mem_append]
    by_cases its : entry.1 = flight.number
    · obtain rfl := accounts.unique entryIn known its
      simp [Execution.record]
    · have otherId : entry.2.runId ≠ flight.execution.runId := by
        intro sameId
        exact its (congrArg Prod.fst (List.inj_on_of_nodup_map distinctIds entryIn known sameId))
      have settled := accounts.settled entry entryIn
      simp only [List.map_cons, List.map_nil, List.mem_singleton]
      constructor
      · intro either given
        rcases either with before | new
        obtain ⟨_, owing⟩ := given
        · exact settled.mp before owing
        · exact otherId new
      · intro notOwed
        exact .inl (settled.mpr fun owing => notOwed ⟨its, owing⟩)

/-- One step keeps the accounts, if it gives out no id for a second time. -/
theorem Accounts.step {event : Event} {notice : Notice} (accounts : Accounts records initial admitted written desk)
    (keeps : coordinator.store.Keeps records)
    (distinctIds : ((admitted ++ (grant? event notice).toList).map (·.2.runId)).Nodup)
    (fresh : ∀ entry ∈ admitted ++ (grant? event notice).toList, entry.2.runId ∉ initial.map (·.runId))
    (move : Move coordinator desk event notice after) :
    ∃ more, Accounts records initial (admitted ++ (grant? event notice).toList) (written ++ more) after := by
  have orderly := move.orderly accounts.orderly
  have quiet (silent : grant? event notice = none) (roster : after.roster.Sublist desk.roster) (next : after.next = desk.next)
      (ledger : after.ledger = desk.ledger) (owes : ∀ number, after.Owes number ↔ desk.Owes number) :
      ∃ more, Accounts records initial (admitted ++ (grant? event notice).toList) (written ++ more) after := by
    refine ⟨[], ?_⟩
    rw [silent, Option.toList_none, List.append_nil, List.append_nil]
    exact accounts.of_same orderly roster next ledger owes
  cases move with
  | refused | busy | brokenOff => exact quiet rfl (List.Sublist.refl _) rfl rfl fun _ => Iff.rfl
  | idle =>
    refine quiet ?_ (List.Sublist.refl _) rfl rfl fun _ => Iff.rfl
    cases event <;> rfl
  | @sent project action now suffix entry runId locks listed minted granted =>
    refine ⟨[], ?_⟩
    rw [List.append_nil]
    apply accounts.sent locks orderly
    rw [List.map_append, List.nodup_append] at distinctIds
    intro idIn
    exact distinctIds.2.2 _ idIn runId (by simp [grant?, Execution.request]) rfl
  | @answered number response flight found stage =>
    have flightIn := (Desk.find?_some found).1
    have roster : (desk.replace { flight with stage := .answered response }).roster = desk.roster :=
      accounts.orderly.roster_replace flightIn rfl rfl
    have sameSide : (Stage.answered response).isRecorded = flight.stage.isRecorded := by
      rw [stage]
      rfl
    exact quiet rfl (roster ▸ List.Sublist.refl _) rfl rfl
      (accounts.orderly.owes_replace_of_same flightIn rfl sameSide)
  | @recorded number finishedAt nonce flight response found stage =>
    have flightIn := (Desk.find?_some found).1
    have same (ledger : σ) : Desk.Orderly { desk with ledger } := ⟨accounts.orderly.rising, accounts.orderly.below⟩
    refine ⟨[flight.execution.record response finishedAt], ?_⟩
    rw [show grant? (.record number finishedAt nonce) .nothing = none from rfl, Option.toList_none,
      List.append_nil] at distinctIds fresh ⊢
    have owing : flight.stage.isRecorded = false := by
      rw [stage]
      rfl
    exact accounts.recorded distinctIds fresh keeps flightIn owing orderly
      ((same _).roster_replace flightIn rfl rfl) rfl rfl (accounts.orderly.owes_recorded flightIn _ _ _)
  | left found stage =>
    have flightIn := (Desk.find?_some found).1
    have same (locks : LockTable) : Desk.Orderly { desk with locks } := ⟨accounts.orderly.rising, accounts.orderly.below⟩
    refine quiet rfl ?_ rfl rfl ((same _).owes_remove flightIn ?_)
    · rw [Desk.roster_remove]
      exact List.filter_sublist
    · rw [stage]
      rfl
  | @abandoned number flight found =>
    have flightIn := (Desk.find?_some found).1
    have roster : (desk.replace { flight with isAwaited := false }).roster = desk.roster :=
      accounts.orderly.roster_replace flightIn rfl rfl
    exact quiet rfl (roster ▸ List.Sublist.refl _) rfl rfl
      (accounts.orderly.owes_replace_of_same flightIn rfl rfl)

theorem Accounts.run (events : List Event) (accounts : Accounts records initial admitted written desk)
    (keeps : coordinator.store.Keeps records)
    (distinctIds : ((admitted ++ grants events (coordinator.run desk events).1).map (·.2.runId)).Nodup)
    (fresh : ∀ entry ∈ admitted ++ grants events (coordinator.run desk events).1,
      entry.2.runId ∉ initial.map (·.runId)) :
    ∃ more, Accounts records initial (admitted ++ grants events (coordinator.run desk events).1) (written ++ more)
      (coordinator.run desk events).2 := by
  induction events generalizing admitted written desk with
  | nil =>
    refine ⟨[], ?_⟩
    rw [grants, List.zip_nil_left, List.filterMap_nil, List.append_nil, List.append_nil]
    exact accounts
  | cons event rest ih =>
    rw [run_cons, grants_cons, ← List.append_assoc] at distinctIds fresh ⊢
    have first : ((admitted ++ (grant? event (coordinator.step desk event).1).toList).map (·.2.runId)).Nodup := by
      rw [List.map_append] at distinctIds
      exact (List.nodup_append.mp distinctIds).1
    obtain ⟨more, stepped⟩ := accounts.step keeps first
      (fun entry entryIn => fresh entry (List.mem_append_left _ entryIn)) (step_move coordinator desk event)
    obtain ⟨rest, ran⟩ := ih stepped distinctIds fresh
    refine ⟨more ++ rest, ?_⟩
    rw [← List.append_assoc]
    exact ran

theorem accounts_opened (records : σ → List RunRecord) (ledger : σ) :
    Accounts records (records ledger) [] [] (Desk.opened ledger) where
  orderly := Desk.orderly_opened ledger
  numbered := rfl
  known := by simp
  ledger := (List.append_nil _).symm
  distinct := List.nodup_nil
  owned := by simp
  settled := by simp

/-- Whoever owes nothing has one record in the ledger. -/
theorem Accounts.isRecorded (accounts : Accounts records initial admitted written desk)
    (distinctIds : (admitted.map (·.2.runId)).Nodup)
    (fresh : ∀ entry ∈ admitted, entry.2.runId ∉ initial.map (·.runId)) {entry : Nat × Execution}
    (entryIn : entry ∈ admitted) (settled : ¬desk.Owes entry.1) : entry.2.IsRecorded (records desk.ledger) := by
  obtain ⟨record, recordIn, sameId⟩ := List.mem_map.mp ((accounts.settled entry entryIn).mpr settled)
  obtain ⟨other, otherIn, response, finishedAt, rfl⟩ := accounts.owned record recordIn
  obtain rfl := List.inj_on_of_nodup_map distinctIds otherIn entryIn sameId
  refine ⟨response, finishedAt, ?_⟩
  have noneBefore : initial.filter (·.runId = other.2.runId) = [] := by
    rw [List.filter_eq_nil_iff]
    intro early earlyIn
    simp only [decide_eq_true_eq]
    intro same
    exact fresh other entryIn (List.mem_map.mpr ⟨early, earlyIn, same⟩)
  rw [accounts.ledger, List.filter_append, noneBefore, List.nil_append]
  exact Ledger.RunLog.filter_runId accounts.distinct recordIn

/-- A flight goes only when its record is written. -/
theorem Move.isRecorded_of_gone {event : Event} {notice : Notice} (orderly : desk.Orderly)
    (move : Move coordinator desk event notice after) {flight : Flight} (flightIn : flight ∈ desk.flights)
    (gone : ∀ other ∈ after.flights, other.number ≠ flight.number) : flight.stage.isRecorded = true := by
  have member : (flight.number, flight.execution) ∈ desk.roster := Desk.mem_roster.mpr ⟨flight, flightIn, rfl⟩
  have notAfter : (flight.number, flight.execution) ∉ after.roster := by
    intro stays
    obtain ⟨other, otherIn, same⟩ := Desk.mem_roster.mp stays
    exact gone other otherIn (congrArg Prod.fst same)
  rcases move.roster orderly with ⟨same, _⟩ | ⟨_, longer, _⟩ | ⟨leaving, leavingIn, recorded, shorter, _⟩
  · exact absurd (same ▸ member) notAfter
  · exact absurd (longer ▸ List.mem_append_left _ member) notAfter
  · by_cases same : flight.number = leaving.number
    · rw [orderly.unique flightIn leavingIn same]
      exact recorded
    · rw [shorter] at notAfter
      exact absurd (List.mem_filter.mpr ⟨member, by simp [same]⟩) notAfter

/-- The execution that an event sets off and the number of its flight: a call that the catalog lists is
granted its lock. -/
def admission? (coordinator : Coordinator σ) (desk : Desk σ) : Event → Option (Nat × Execution)
  | .call project action now suffix =>
    match coordinator.catalog.resolve project action with
    | .error _ => none
    | .ok entry =>
      match LockTable.acquire coordinator.policy desk.locks action now suffix with
      | (.granted runId startedAt, _) => some (desk.next, ⟨project, action, entry.target, runId, startedAt⟩)
      | _ => none
  | _ => none

/-- The executions that a course of events sets off. -/
def admissions (coordinator : Coordinator σ) (desk : Desk σ) : List Event → List (Nat × Execution)
  | [] => []
  | event :: rest =>
    (coordinator.admission? desk event).toList ++ coordinator.admissions (coordinator.step desk event).2 rest

def request? : Notice → Option (Nat × Request)
  | .sent number request => some (number, request)
  | _ => none

/-- The requests that are made of the gateway, each with the number of its flight. -/
def requests (notices : List Notice) : List (Nat × Request) := notices.filterMap request?

theorem requests_cons (notice : Notice) (rest : List Notice) :
    requests (notice :: rest) = (request? notice).toList ++ requests rest := by
  simp only [requests, List.filterMap_cons]
  cases request? notice <;> rfl

theorem admissions_append (coordinator : Coordinator σ) (desk : Desk σ) (first second : List Event) :
    coordinator.admissions desk (first ++ second) =
      coordinator.admissions desk first ++ coordinator.admissions (coordinator.run desk first).2 second := by
  induction first generalizing desk with
  | nil => rfl
  | cons event rest ih => simp only [List.cons_append, admissions, run_cons, ih, List.append_assoc]

/-- A grant is seen from outside, and nothing is that looks like one. -/
theorem grant?_step (coordinator : Coordinator σ) (desk : Desk σ) (event : Event) :
    grant? event (coordinator.step desk event).1 = coordinator.admission? desk event := by
  cases event with
  | call project action now suffix =>
    simp only [step, call, admission?]
    cases listed : coordinator.catalog.resolve project action with
    | error fault => rfl
    | ok entry =>
      simp only
      generalize asked : LockTable.acquire coordinator.policy desk.locks action now suffix = answer
      obtain ⟨admission, locks⟩ := answer
      cases admission with
      | granted runId startedAt =>
        obtain ⟨rfl, _, _⟩ := LockTable.acquire_granted asked
        rfl
      | refused holder => rfl
      | brokenOff => rfl
  | answer | record | leave | abandon => simp only [grant?, admission?]

theorem grants_eq (coordinator : Coordinator σ) (desk : Desk σ) (events : List Event) :
    grants events (coordinator.run desk events).1 = coordinator.admissions desk events := by
  induction events generalizing desk with
  | nil => rfl
  | cons event rest ih => rw [run_cons, grants_cons, grant?_step, ih, admissions]

theorem request?_step (coordinator : Coordinator σ) (desk : Desk σ) (event : Event) :
    request? (coordinator.step desk event).1 =
      (coordinator.admission? desk event).map fun entry => (entry.1, entry.2.request) := by
  rw [← grant?_step]
  have move := step_move coordinator desk event
  generalize coordinator.step desk event = stepped at move ⊢
  obtain ⟨notice, after⟩ := stepped
  cases move with
  | idle => cases event <;> rfl
  | @left _ flight _ _ _ _ _ told =>
    rw [told]
    split <;> rfl
  | _ => rfl

theorem requests_eq (coordinator : Coordinator σ) (desk : Desk σ) (events : List Event) :
    requests (coordinator.run desk events).1 =
      (coordinator.admissions desk events).map fun entry => (entry.1, entry.2.request) := by
  induction events generalizing desk with
  | nil => rfl
  | cons event rest ih =>
    rw [run_cons, requests_cons, request?_step, ih, admissions, List.map_append]
    cases coordinator.admission? desk event <;> rfl

theorem listed_of_admission? {event : Event} {entry : Nat × Execution}
    (admitted : coordinator.admission? desk event = some entry) :
    coordinator.catalog.resolve entry.2.project entry.2.action = .ok ⟨entry.2.action, entry.2.target⟩ := by
  unfold admission? at admitted
  split at admitted
  next project action now suffix =>
    split at admitted
    next => cases admitted
    next listed =>
      split at admitted
      next =>
        cases admitted
        have named := Catalog.action_of_resolve listed
        rw [listed, ← named]
      next => cases admitted
  next => cases admitted

theorem listed_of_admissions (events : List Event) :
    ∀ entry ∈ coordinator.admissions desk events,
      coordinator.catalog.resolve entry.2.project entry.2.action = .ok ⟨entry.2.action, entry.2.target⟩ := by
  induction events generalizing desk with
  | nil => simp [admissions]
  | cons event rest ih =>
    intro entry entryIn
    rcases List.mem_append.mp entryIn with first | later
    · exact listed_of_admission? (by simpa using first)
    · exact ih entry later

/-- What there is to show for a course of events: the executions it admitted, what was asked of the gateway
for them, and what the ledger holds in the end. -/
structure Accounted (coordinator : Coordinator σ) (records : σ → List RunRecord) (ledger : σ) (events : List Event) :
    Prop where
  numbered : (coordinator.admissions (Desk.opened ledger) events).map (·.1) =
    List.range (coordinator.admissions (Desk.opened ledger) events).length
  listed : ∀ entry ∈ coordinator.admissions (Desk.opened ledger) events,
    coordinator.catalog.resolve entry.2.project entry.2.action = .ok ⟨entry.2.action, entry.2.target⟩
  /-- Each execution makes one request, and nobody else makes any. -/
  requested : requests (coordinator.run (Desk.opened ledger) events).1 =
    (coordinator.admissions (Desk.opened ledger) events).map fun entry => (entry.1, entry.2.request)
  /-- Each execution that is over has one record. -/
  recorded : ∀ entry ∈ coordinator.admissions (Desk.opened ledger) events,
    (∀ flight ∈ (coordinator.run (Desk.opened ledger) events).2.flights, flight.number ≠ entry.1) →
    entry.2.IsRecorded (records (coordinator.run (Desk.opened ledger) events).2.ledger)
  /-- Nothing else is added to the ledger, and nothing is lost. -/
  added : ∃ written, records (coordinator.run (Desk.opened ledger) events).2.ledger = records ledger ++ written ∧
    ∀ record ∈ written, ∃ entry ∈ coordinator.admissions (Desk.opened ledger) events,
      ∃ response finishedAt, record = entry.2.record response finishedAt
  /-- A step with which an execution is over, and lets go of its lock, finds its record in the ledger. -/
  recordedBefore : ∀ flight ∈ (coordinator.run (Desk.opened ledger) events).2.flights, ∀ event,
    (∀ other ∈ (coordinator.step (coordinator.run (Desk.opened ledger) events).2 event).2.flights,
      other.number ≠ flight.number) →
    flight.execution.IsRecorded (records (coordinator.run (Desk.opened ledger) events).2.ledger)
  /-- Whoever is refused leaves everything as it is. -/
  unmoved : ∀ event, ((∃ busy, (coordinator.step (coordinator.run (Desk.opened ledger) events).2 event).1 = .busy busy) ∨
      ∃ fault, (coordinator.step (coordinator.run (Desk.opened ledger) events).2 event).1 = .refused fault) →
    (coordinator.step (coordinator.run (Desk.opened ledger) events).2 event).2 =
      (coordinator.run (Desk.opened ledger) events).2
  /-- Whoever is told to join a run is told of one that is under way, and finds its record when it is over. -/
  joinable : ∀ before event after busy, events = before ++ event :: after →
    (coordinator.step (coordinator.run (Desk.opened ledger) before).2 event).1 = .busy busy →
    (∃ project now suffix, event = .call project busy.action now suffix) ∧
    ∃ flight ∈ (coordinator.run (Desk.opened ledger) before).2.flights,
      flight.execution.action = busy.action ∧ flight.execution.runId = busy.activeRun ∧
      flight.execution.startedAt = busy.startedAt ∧
      ((∀ other ∈ (coordinator.run (Desk.opened ledger) events).2.flights, other.number ≠ flight.number) →
        flight.execution.IsRecorded (records (coordinator.run (Desk.opened ledger) events).2.ledger))

/-- Whoever is told to join a run is told of one that is under way. -/
theorem Move.flight_of_busy {event : Event} {busy : Busy} (backed : Backed desk)
    (move : Move coordinator desk event (.busy busy) after) :
    (∃ project now suffix, event = .call project busy.action now suffix) ∧
    ∃ flight ∈ desk.flights, flight.execution.action = busy.action ∧ flight.execution.runId = busy.activeRun ∧
      flight.execution.startedAt = busy.startedAt := by
  generalize told : Notice.busy busy = notice at move
  cases move with
  | @busy project action now suffix entry hold listed held notExempt fresh =>
    cases told
    refine ⟨⟨project, now, suffix, rfl⟩, ?_⟩
    obtain ⟨entry, entryIn, sameAction, sameHold⟩ := backed action hold held
    obtain ⟨flight, flightIn, rfl⟩ := Desk.mem_roster.mp entryIn
    exact ⟨flight, flightIn, sameAction, congrArg Hold.runId sameHold, congrArg Hold.acquiredAt sameHold⟩
  | left found stage other =>
    rw [← told] at other
    split at other <;> cases other
  | _ => cases told

theorem Move.same_of_refused {event : Event} {notice : Notice}
    (refused : (∃ busy, notice = .busy busy) ∨ ∃ fault, notice = .refused fault)
    (move : Move coordinator desk event notice after) : after = desk := by
  cases move with
  | refused | busy | idle => rfl
  | left found stage told =>
    subst told
    split at refused <;> simp at refused
  | _ => simp at refused

/-- However calls, answers, records, departures and callers who do not wait are mixed: if appending succeeds
for ids that the ledger does not hold, and the ids that are given out are new and all different, then each
execution that is admitted makes one request of the gateway and leaves one record. -/
theorem one_record_each (coordinator : Coordinator σ) (records : σ → List RunRecord) (ledger : σ) (events : List Event)
    (keeps : coordinator.store.Keeps records)
    (distinct : ((coordinator.admissions (Desk.opened ledger) events).map (·.2.runId)).Nodup)
    (fresh : ∀ entry ∈ coordinator.admissions (Desk.opened ledger) events,
      entry.2.runId ∉ (records ledger).map (·.runId)) :
    coordinator.Accounted records ledger events := by
  have seen := grants_eq coordinator (Desk.opened ledger) events
  have orderly := orderly_run coordinator (Desk.opened ledger) events (Desk.orderly_opened ledger)
  obtain ⟨written, accounts⟩ := (accounts_opened records ledger).run events keeps
    (by rw [seen]; exact distinct) (by rw [seen]; exact fresh)
  rw [seen, List.nil_append, List.nil_append] at accounts
  have finished {entry : Nat × Execution} (entryIn : entry ∈ coordinator.admissions (Desk.opened ledger) events)
      (gone : ∀ flight ∈ (coordinator.run (Desk.opened ledger) events).2.flights, flight.number ≠ entry.1) :
      entry.2.IsRecorded (records (coordinator.run (Desk.opened ledger) events).2.ledger) := by
    apply accounts.isRecorded distinct fresh entryIn
    intro given
    obtain ⟨flight, flightIn, same, _⟩ := given
    exact gone flight flightIn same
  constructor
  · have numbers := grants_numbers coordinator (Desk.opened ledger) events (Desk.orderly_opened ledger)
    rw [seen, Desk.next_opened] at numbers
    rw [numbers, List.range_eq_range']
  · exact listed_of_admissions events
  · exact requests_eq coordinator (Desk.opened ledger) events
  · intro entry entryIn gone
    exact finished entryIn gone
  · exact ⟨written, accounts.ledger, accounts.owned⟩
  · intro flight flightIn event gone
    have recorded := (step_move coordinator _ event).isRecorded_of_gone orderly flightIn gone
    have known := accounts.known (flight.number, flight.execution) (Desk.mem_roster.mpr ⟨flight, flightIn, rfl⟩)
    apply accounts.isRecorded distinct fresh known
    intro given
    obtain ⟨other, otherIn, same, owing⟩ := given
    obtain rfl := orderly.unique otherIn flightIn same
    rw [recorded] at owing
    cases owing
  · intro event refused
    exact (step_move coordinator _ event).same_of_refused refused
  · intro before event after busy same told
    subst same
    have backed := backed_run coordinator (Desk.opened ledger) before (Desk.orderly_opened ledger) (backed_opened ledger)
    obtain ⟨called, flight, flightIn, sameAction, sameRun, sameStart⟩ :=
      (told ▸ step_move coordinator _ event).flight_of_busy backed
    refine ⟨called, flight, flightIn, sameAction, sameRun, sameStart, ?_⟩
    intro gone
    have roster := roster_run coordinator (Desk.opened ledger) before (Desk.orderly_opened ledger)
    rw [grants_eq, Desk.roster_opened, List.nil_append] at roster
    have admitted := roster.subset (Desk.mem_roster.mpr ⟨flight, flightIn, rfl⟩)
    have known : (flight.number, flight.execution) ∈
        coordinator.admissions (Desk.opened ledger) (before ++ event :: after) := by
      rw [admissions_append]
      exact List.mem_append_left _ admitted
    exact finished known gone

/-- A deployment that is joined, taken over when it is overdue, and given up by its caller, and the one that
takes it over. The gateway breaks down over the second one. -/
def takeover : List Event :=
  [.call "alpha" "deploy" (.newYear 0) 1,
    .call "alpha" "deploy" (.newYear 1000000000) 2,
    .call "alpha" "deploy" (.newYear 2000000000) 3,
    .abandon 0, .answer 1 (.panicked "out of memory" 0), .answer 0 .blank,
    .record 0 (.newYear 3000000000) 0, .leave 0,
    .record 1 (.newYear 3000000000) 0, .leave 1]

theorem one_record_each_takeover :
    ofDeployment.store.Keeps id ∧
    ((ofDeployment.admissions (Desk.opened []) takeover).map (·.2.runId)).Nodup ∧
    (∀ entry ∈ ofDeployment.admissions (Desk.opened []) takeover, entry.2.runId ∉ (id ([] : List RunRecord)).map (·.runId)) ∧
    (ofDeployment.admissions (Desk.opened []) takeover).map (·.1) = [0, 1] ∧
    (ofDeployment.run (Desk.opened []) takeover).2.roster = [] ∧
    ofDeployment.Accounted id [] takeover := by
  have ids : (ofDeployment.admissions (Desk.opened []) takeover).map (·.2.runId.text) =
      ["20260101T000000Z-0001", "20260101T000002Z-0003"] := by decide +kernel
  have distinct : ((ofDeployment.admissions (Desk.opened []) takeover).map (·.2.runId)).Nodup := by
    apply List.Nodup.of_map RunId.text
    rw [List.map_map]
    exact ids ▸ (by decide)
  have fresh : ∀ entry ∈ ofDeployment.admissions (Desk.opened []) takeover,
      entry.2.runId ∉ (id ([] : List RunRecord)).map (·.runId) := fun _ _ => List.not_mem_nil
  refine ⟨RunLog.keeps, distinct, fresh, ?_, ?_,
    one_record_each ofDeployment id [] takeover RunLog.keeps distinct fresh⟩
  · decide +kernel
  · decide +kernel

end Coordinator

end SingleFlight
