import SingleFlight.Fault
import SingleFlight.Run.Filter

/-!
Stores of run records, and the ledger that is kept in one. A store shows its faults; the ledger never
fails, so that trouble with the records of runs cannot stand in the way of a run.
-/

namespace SingleFlight.Ledger

/-- What a store does to the state of type `σ` that it is kept in. Records are appended and never
changed; each append is given a number that no other append under way uses. -/
structure RunStore (σ : Type) where
  append : UInt32 → RunRecord → σ → Except Fault Unit × σ
  get : RunId → σ → Except Fault (Option RunRecord) × σ
  /-- The newest records that a filter keeps, in falling order of their run ids. -/
  listRecent : RunFilter → Nat → σ → Except Fault (List RunRecord) × σ

namespace RunStore

variable {σ : Type}

/-- Records a run, and answers with its id if that could be done. -/
def write (store : RunStore σ) (nonce : UInt32) (record : RunRecord) (state : σ) : Option RunId × σ :=
  match store.append nonce record state with
  | (.ok (), changed) => (some record.runId, changed)
  | (.error _, changed) => (none, changed)

/-- Looks a record up by a text that need not be a run id. -/
def read (store : RunStore σ) (text : String) (state : σ) : Option RunRecord × σ :=
  match RunId.ofText? text with
  | none => (none, state)
  | some runId =>
    match store.get runId state with
    | (.ok found, changed) => (found, changed)
    | (.error _, changed) => (none, changed)

def listMatching (store : RunStore σ) (filter : RunFilter) (limit : Nat) (state : σ) : List RunRecord × σ :=
  match store.listRecent filter limit state with
  | (.ok records, changed) => (records, changed)
  | (.error _, changed) => ([], changed)

/-- The newest record of a family of actions. -/
def latest (store : RunStore σ) (family : ActionFamily) (state : σ) : Option RunRecord × σ :=
  match store.listMatching (.ofFamily family) 1 state with
  | (records, changed) => (records.head?, changed)

end RunStore

end SingleFlight.Ledger
