import SingleFlight.Json.Reader
import SingleFlight.Status.Artifacts
import SingleFlight.Status.Findings
import SingleFlight.Text.Blank

/-!
Live sessions. Each session has a directory with a state file; only the few directories that changed
last are looked at.
-/

namespace SingleFlight.Status

open Files Text

def sessionFile : String := "state.json"

def sessionsLookedAt : Nat := 5

def liveState : String := "live"

/-- What the state file of a session says. -/
structure SessionState where
  state : Option String
  accessUrl : Option String
  url : Option String
  viewerUrl : Option String
  deriving DecidableEq

namespace SessionState

def fieldNames : List String := ["state", "access_url", "url", "novnc_url"]

def ofJson? (json : Json) : Option SessionState := do
  let fields ← json.fields? fieldNames
  return {
    state := ← Findings.textField? fields "state"
    accessUrl := ← Findings.textField? fields "access_url"
    url := ← Findings.textField? fields "url"
    viewerUrl := ← Findings.textField? fields "novnc_url" }

def isLive (session : SessionState) : Bool := session.state.any fun text => asciiLower (trim text) = liveState

/-- The access address, of which the first that says something counts. -/
def firstUrl? (session : SessionState) : Option String :=
  firstFilled [session.accessUrl, session.url, session.viewerUrl]

end SessionState

/-- The access address of a session that is live. -/
def sessionUrl? (tree : Tree) (directory : Tree.Subdirectory) : Option String :=
  match tree.read (directory.path.join sessionFile) with
  | .error _ => none
  | .ok content =>
    match (Json.ofBytes? content).bind SessionState.ofJson? with
    | none => none
    | some session => if session.isLive then session.firstUrl? else none

/-- Whether a directory changed later than another, or at the same time and sorts after it. -/
def isNewer (first second : Tree.Subdirectory) : Bool :=
  second.modified < first.modified || (second.modified = first.modified && second.path.text ≤ first.path.text)

/-- The access address of the newest live session. -/
def liveSession? (tree : Tree) (root : Path) : Option String :=
  (((tree.subdirectories root).mergeSort isNewer).take sessionsLookedAt).findSome? (sessionUrl? tree)

end SingleFlight.Status
