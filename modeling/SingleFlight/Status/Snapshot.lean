import SingleFlight.Fault
import SingleFlight.Files.Effect
import SingleFlight.Json.Printer
import SingleFlight.Status.Resolve

/-!
Snapshots of status reports, for display. A snapshot is written beside its place and then moved there,
so that whoever looks sees the old one or the new one. Nothing depends on its being written.
-/

namespace SingleFlight.Status

open Files Ledger Text

/-- What came of a write that nothing depends on. -/
inductive SnapshotOutcome where
  | written
  | skipped
  | failed (fault : Fault)
  deriving DecidableEq

def snapshotContent (report : Report) : List Byte := Utf8.ofString (Json.indented report.toJson)

/-- Where a snapshot is written before it is moved to its place. -/
def snapshotStaging (path : Path) (nonce : UInt32) : Path :=
  let name := (path.fileName?.bind OsText.text?).getD "status"
  path.withFileName ("." ++ name ++ "." ++ String.ofList (hexPadded 8 nonce.toNat) ++ ".tmp" : String)

/-- Writes a file and moves it to its place. -/
def stageAndMove (staging destination : Path) (content : List Byte) : List Effect :=
  [.create staging, .write staging content, .sync staging, .rename staging destination]

/-- Makes the directories that lead to a path, if it names any. -/
def makeOuterDirectories (path : Path) (tree : Tree) : Except Files.Failure Unit × Tree :=
  match path.parent?.filter (fun outer => !outer.text.isEmpty) with
  | some outer => tree.makeDirectories outer
  | none => (.ok (), tree)

def writeSnapshot (path : Path) (nonce : UInt32) (report : Report) (tree : Tree) : SnapshotOutcome × Tree :=
  if report.isPrintable then
    match makeOuterDirectories path tree with
    | (.error failure, opened) => (.failed (.snapshotNotWritten failure), opened)
    | (.ok (), opened) =>
      let staging := snapshotStaging path nonce
      match opened.performAll (stageAndMove staging path (snapshotContent report)) with
      | (.ok (), changed) => (.written, changed)
      | (.error failure, changed) => (.failed (.snapshotNotWritten failure), changed.attempt (.remove staging))
  else (.failed .snapshotUnprintable, tree)

/-- Resolves the status of a family and writes its snapshot, if it is to have one. -/
def resolveAndSnapshot (store : RunStore Tree) (family : Family) (nonce : UInt32) (tree : Tree) :
    (Report × SnapshotOutcome) × Tree :=
  match resolve store family tree with
  | (report, resolved) =>
    match family.snapshot with
    | none => ((report, .skipped), resolved)
    | some path =>
      match writeSnapshot path nonce report resolved with
      | (outcome, changed) => ((report, outcome), changed)

end SingleFlight.Status
