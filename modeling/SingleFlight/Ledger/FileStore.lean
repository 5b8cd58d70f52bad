import SingleFlight.Files.Effect
import SingleFlight.Json.Printer
import SingleFlight.Json.Reader
import SingleFlight.Ledger.Store

/-!
The ledger as a directory that holds one file for each run, named for the run. A record is written to
a hidden staging file first and then linked into place, so that a reader never meets half a record
and no record takes the place of another.
-/

namespace SingleFlight.Ledger

open Files Text

namespace FileStore

def recordPath (root : Path) (runId : RunId) : Path := root.join (runId.text ++ ".json" : String)

def stagingPath (root : Path) (runId : RunId) (nonce : UInt32) : Path :=
  root.join ("." ++ runId.text ++ "." ++ String.ofList (hexPadded 8 nonce.toNat) ++ ".tmp" : String)

def payload (record : RunRecord) : List Byte := Utf8.ofString (Json.indented record.toJson)

def stageAndLink (staging destination : Path) (content : List Byte) : List Effect :=
  [.createNew staging, .write staging content, .sync staging, .link staging destination]

def appendFault (runId : RunId) (failure : Files.Failure) : Fault :=
  if failure = .exists then .recordExists runId else .fileStore "append" failure (some runId)

def append (root : Path) (nonce : UInt32) (record : RunRecord) (tree : Tree) : Except Fault Unit × Tree :=
  match tree.makeDirectories root with
  | (.error failure, opened) => (.error (.fileStore "append" failure none), opened)
  | (.ok (), opened) =>
    if record.isPrintable then
      let staging := stagingPath root record.runId nonce
      match opened.performAll (stageAndLink staging (recordPath root record.runId) (payload record)) with
      | (.ok (), changed) => (.ok (), changed.attempt (.remove staging))
      | (.error failure, changed) => (.error (appendFault record.runId failure), changed.attempt (.remove staging))
    else (.error (.recordUnprintable record.runId), opened)

def decode? (content : List Byte) : Option RunRecord := (Json.ofBytes? content).bind RunRecord.ofJson?

def get (root : Path) (runId : RunId) (tree : Tree) : Except Fault (Option RunRecord) :=
  match tree.read (recordPath root runId) with
  | .error .missing => .ok none
  | .error failure => .error (.fileStore "get" failure (some runId))
  | .ok content =>
    match decode? content with
    | none => .error (.recordInvalid runId)
    | some record => if record.runId = runId then .ok (some record) else .error (.recordMisfiled runId record.runId)

/-- The run that a file is named for. -/
def namedRun? (name : OsText) : Option RunId := (name.text?.bind (withoutEnding? ".json")).bind RunId.ofText?

/-- The runs that files are named for, the latest first. -/
def listedRuns (root : Path) (tree : Tree) : Except Fault (List RunId) :=
  match tree.list root with
  | .error .missing => .ok []
  | .error failure => .error (.fileStore "list_recent" failure none)
  | .ok names => .ok ((names.filterMap namedRun?).mergeSort (fun first second => decide (second.text ≤ first.text)))

/-- The record of a run, if it can be read and a filter keeps it. -/
def kept? (root : Path) (filter : RunFilter) (tree : Tree) (runId : RunId) : Option RunRecord :=
  match get root runId tree with
  | .ok (some record) => if filter.keeps record then some record else none
  | _ => none

/-- Looks runs up one by one until enough are found. A run that nothing is found for is passed over. -/
def gather (find? : RunId → Option RunRecord) : Nat → List RunId → List RunRecord
  | 0, _ => []
  | _ + 1, [] => []
  | limit + 1, runId :: rest =>
    match find? runId with
    | some record => record :: gather find? limit rest
    | none => gather find? (limit + 1) rest

/-- What is passed over does not count. -/
theorem gather_eq (find? : RunId → Option RunRecord) (limit : Nat) (runs : List RunId) :
    gather find? limit runs = (runs.filterMap find?).take limit := by
  fun_induction gather find? limit runs with
  | case1 => rw [List.take_zero]
  | case2 => rw [List.filterMap_nil, List.take_nil]
  | case3 limit runId rest record found ih => rw [List.filterMap_cons_some found, List.take_succ_cons, ih]
  | case4 limit runId rest missing ih => rw [List.filterMap_cons_none missing, ih]

def listRecent (root : Path) (filter : RunFilter) (limit : Nat) (tree : Tree) : Except Fault (List RunRecord) :=
  if limit = 0 then .ok [] else (listedRuns root tree).map (gather (kept? root filter tree) limit)

/-- The ledger in the directory at a path. -/
def store (root : Path) : RunStore Tree where
  append := append root
  get runId tree := (get root runId tree, tree)
  listRecent filter limit tree := (listRecent root filter limit tree, tree)

end FileStore

end SingleFlight.Ledger
