import SingleFlight.Proofs.RunLog

/-!
Calls of a store, one after the other. What one call keeps is kept by any number of calls, and two stores
that answer each call alike answer any number of calls alike.
-/

namespace SingleFlight.Ledger

inductive LedgerCall where
  | append (nonce : UInt32) (record : RunRecord)
  | get (runId : RunId)
  | listRecent (filter : RunFilter) (limit : Nat)

/-- What a store answers to a call, with whatever stands for its faults. -/
inductive LedgerAnswer (trouble : Type) where
  | appended (answer : Except trouble Unit)
  | got (answer : Except trouble (Option RunRecord))
  | listed (answer : Except trouble (List RunRecord))

/-- What a caller goes by when it meets a fault: the kind of the fault, and the run that it names. -/
def outline (fault : Fault) : FaultKind × Option RunId := (fault.kind, fault.run?)

/-- An answer without the wording of its faults. -/
def LedgerAnswer.outlined : LedgerAnswer Fault → LedgerAnswer (FaultKind × Option RunId)
  | appended answer => .appended (answer.mapError outline)
  | got answer => .got (answer.mapError outline)
  | listed answer => .listed (answer.mapError outline)

namespace RunStore

variable {σ τ : Type}

def serve (store : RunStore σ) (state : σ) : LedgerCall → LedgerAnswer Fault × σ
  | .append nonce record => (.appended (store.append nonce record state).1, (store.append nonce record state).2)
  | .get runId => (.got (store.get runId state).1, (store.get runId state).2)
  | .listRecent filter limit =>
    (.listed (store.listRecent filter limit state).1, (store.listRecent filter limit state).2)

def serveAll (store : RunStore σ) (state : σ) : List LedgerCall → List (LedgerAnswer Fault) × σ
  | [] => ([], state)
  | call :: rest =>
    ((store.serve state call).1 :: (store.serveAll (store.serve state call).2 rest).1,
      (store.serveAll (store.serve state call).2 rest).2)

/-- Whether each call finds the store in a state that suits it. -/
def Throughout (store : RunStore σ) (suits : LedgerCall → σ → Prop) : σ → List LedgerCall → Prop
  | _, [] => True
  | state, call :: rest => suits call state ∧ store.Throughout suits (store.serve state call).2 rest

theorem throughout_of_forall {store : RunStore σ} {suits : LedgerCall → σ → Prop} (all : ∀ call state, suits call state)
    {state : σ} {calls : List LedgerCall} : store.Throughout suits state calls := by
  induction calls generalizing state with
  | nil => trivial
  | cons call rest ih => exact ⟨all call state, ih⟩

theorem serveAll_keeps {store : RunStore σ} {suits : LedgerCall → σ → Prop} (kept : σ → Prop)
    (step : ∀ call state, suits call state → kept state → kept (store.serve state call).2) {state : σ}
    {calls : List LedgerCall} (suited : store.Throughout suits state calls) (start : kept state) :
    kept (store.serveAll state calls).2 := by
  induction calls generalizing state with
  | nil => exact start
  | cons call rest ih => exact ih suited.2 (step call state suited.1 start)

/-- A relation between the states of two stores that every call keeps, and that makes the stores answer
alike, makes them answer alike for good. -/
theorem serveAll_alike {store : RunStore σ} {model : RunStore τ} {allowed : LedgerCall → Prop}
    (related : τ → σ → Prop)
    (step : ∀ call state other, allowed call → related other state →
      (store.serve state call).1.outlined = (model.serve other call).1.outlined ∧
        related (model.serve other call).2 (store.serve state call).2)
    {calls : List LedgerCall} (all : ∀ call ∈ calls, allowed call) {state : σ} {other : τ} (start : related other state) :
    (store.serveAll state calls).1.map (·.outlined) = (model.serveAll other calls).1.map (·.outlined) ∧
      related (model.serveAll other calls).2 (store.serveAll state calls).2 := by
  induction calls generalizing state other with
  | nil => exact ⟨rfl, start⟩
  | cons call rest ih =>
    obtain ⟨answers, stepped⟩ := step call state other (all call List.mem_cons_self) start
    obtain ⟨restAnswers, last⟩ := ih (fun later found => all later (List.mem_cons_of_mem _ found)) stepped
    refine ⟨?_, last⟩
    rw [serveAll, serveAll, List.map_cons, List.map_cons, answers, restAnswers]

end RunStore

end SingleFlight.Ledger
