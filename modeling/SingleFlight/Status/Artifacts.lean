import SingleFlight.Dictionary
import SingleFlight.Files.Tree
import SingleFlight.Run.Record

/-!
Where the artifacts of a run are, and which of the well-known ones there are. A directory that the
record names comes before a finished proof directory, and that before a directory of the gateway.
-/

namespace SingleFlight.Status

open Files Text

def resultFile : String := "result.json"

def waitingFile : String := "waiting_for_human.json"

def proofFile : String := "proof.json"

def gatewayResultFile : String := "gateway_result.json"

def outputFile : String := "output.log"

def wellKnownArtifacts : List (String × String) :=
  [("result", resultFile), ("waiting_for_human", waitingFile), ("proof", proofFile),
    ("gateway_result", gatewayResultFile), ("output", outputFile), ("screenshot", "screenshot.png"),
    ("trace", "trace.zip")]

/-- The directory that an artifact path names: the path itself, or the directory of a file. -/
def artifactDirectory? (tree : Tree) (path : Path) : Option Path :=
  if tree.isDirectory path then some path
  else if tree.isFile path then path.parent?
  else none

/-- The directory that the record of a run names. -/
def recordedDirectory? (tree : Tree) (record : RunRecord) : Option Path :=
  record.artifactPaths.findSome? (artifactDirectory? tree)

/-- The later of two directories; of two that changed at one time, the one that sorts last. -/
def later (first second : Tree.Subdirectory) : Tree.Subdirectory :=
  if second.modified < first.modified ∨ (second.modified = first.modified ∧ second.path.text ≤ first.path.text) then
    first
  else second

def latest? : List Tree.Subdirectory → Option Tree.Subdirectory
  | [] => none
  | first :: rest => some (rest.foldl later first)

/-- A proof directory is finished once its proof is there. -/
def isFinished (tree : Tree) (directory : Tree.Subdirectory) : Bool :=
  tree.isFile (directory.path.join proofFile)

def proofDirectory? (tree : Tree) (root : Path) : Option Path :=
  (latest? ((tree.subdirectories root).filter (isFinished tree))).map (·.path)

def lastPath? : List Path → Option Path
  | [] => none
  | first :: rest => some (rest.foldl (fun last path => if last.text ≤ path.text then path else last) first)

/-- Gateway directories are named for the time of a run, with or without more behind it, in UTF-8. -/
def isNamedFor (runId : RunId) (directory : Tree.Subdirectory) : Bool :=
  (directory.path.fileName?.bind OsText.text?).any (startsWith · runId.timestampComponent)

def timestampDirectory? (tree : Tree) (root : Path) (runId : RunId) : Option Path :=
  lastPath? (((tree.subdirectories root).filter (isNamedFor runId)).map (·.path))

def findDirectory? (tree : Tree) (record : RunRecord) (proofRoot gatewayRoot : Option Path) : Option Path :=
  (recordedDirectory? tree record).or
    ((proofRoot.bind (proofDirectory? tree)).or
      (gatewayRoot.bind (timestampDirectory? tree · record.runId)))

/-- The well-known artifacts in a directory. -/
def links (tree : Tree) (directory : Path) : Dictionary Path :=
  Dictionary.ofList ((wellKnownArtifacts.map fun (name, file) => (name, directory.join file)).filter
    fun (_, path) => tree.isFile path)

end SingleFlight.Status
