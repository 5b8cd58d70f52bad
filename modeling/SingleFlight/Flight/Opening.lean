import SingleFlight.Config.Settings
import SingleFlight.Flight.Desk
import SingleFlight.Ledger.FileStore
import SingleFlight.Ledger.SqlStore

/-!
From settings to a coordinator at work: the ledger that is named is opened, and a database is brought
to the latest version before anything else is done with it.
-/

namespace SingleFlight

open Config Files Ledger

def Config.LedgerSettings.openStore (settings : LedgerSettings) (tree : Tree) : Except Fault (RunStore Tree) × Tree :=
  match settings.backend with
  | .files => (.ok (FileStore.store settings.path), tree)
  | .sqlite =>
    match SqlStore.migrate settings.path Migration.latestVersion tree with
    | (.ok (), migrated) => (.ok (SqlStore.store settings.path), migrated)
    | (.error fault, changed) => (.error fault, changed)

def Coordinator.ofSettings (settings : Settings) (tree : Tree) : Except Fault (Coordinator Tree) × Tree :=
  match settings.ledger.openStore tree with
  | (.ok store, opened) => (.ok ⟨settings.catalog.catalog, settings.locks.policy, store⟩, opened)
  | (.error fault, changed) => (.error fault, changed)

end SingleFlight
