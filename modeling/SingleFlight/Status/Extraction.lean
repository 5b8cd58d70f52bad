import SingleFlight.Json.Reader
import SingleFlight.Status.Artifacts
import SingleFlight.Status.Findings
import SingleFlight.Text.Lines

/-!
What the artifacts in a directory say of a run, taken in a fixed order. What is missing or cannot be
read says nothing.
-/

namespace SingleFlight.Status

open Files Text

/-- The artifacts that are asked, in the order in which they are. -/
inductive Source where
  | result
  | waitingMarker
  | proof
  | gatewayResult
  | output
  deriving DecidableEq

namespace Source

def all : List Source := [result, waitingMarker, proof, gatewayResult, output]

def fileName : Source → String
  | result => resultFile
  | waitingMarker => waitingFile
  | proof => proofFile
  | gatewayResult => gatewayResultFile
  | output => outputFile

end Source

def waitingStatus : String := "waiting_for_human"

def proofStatus : String := "success"

def findingsIn? (content : List Byte) : Option Findings := (Json.ofBytes? content).bind Findings.ofJson?

/-- What a line says that is written as an object. -/
def structuredLine? (line : List Char) : Option Findings :=
  let trimmed := trimChars line
  if trimmed.head? = some '\x7b' then (Json.ofChars? trimmed).bind Findings.ofJson? else none

/-- How much of the end of an output is looked at. -/
def outputWindow : Nat := 65536

/-- What the last line says that is written as an object, in the end of an output. -/
def lastStructuredLine? (content : List Byte) : Option Findings :=
  (lines (Utf8.lossy (content.drop (content.length - outputWindow)))).reverse.findSome? structuredLine?

/-- What the content of an artifact says. Having a marker means waiting, having a proof means success,
and the gateway is asked for the class of the error alone. -/
def Source.interpret? (source : Source) (content : List Byte) : Option Findings :=
  match source with
  | .result => findingsIn? content
  | .waitingMarker => (findingsIn? content).map fun found => { found with status := some waitingStatus }
  | .proof => (findingsIn? content).map fun found => { found with status := found.status.or (some proofStatus) }
  | .gatewayResult => (findingsIn? content).map fun found => { Findings.nothing with errorClass := found.errorClass }
  | .output => lastStructuredLine? content

def Source.read? (source : Source) (tree : Tree) (directory : Path) : Option Findings :=
  match tree.read (directory.join source.fileName) with
  | .ok content => source.interpret? content
  | .error _ => none

/-- Adds what the given artifacts say to what is known. A proof is the last word, and the output is
asked only while there is no status. -/
def gather (tree : Tree) (directory : Path) : List Source → Findings → Findings
  | [], known => known
  | source :: rest, known =>
    if source = .output && known.status.isSome then gather tree directory rest known
    else match source.read? tree directory with
      | none => gather tree directory rest known
      | some found =>
        match source with
        | .waitingMarker => gather tree directory rest (known.overrideWith found)
        | .proof => known.fillFrom found
        | _ => gather tree directory rest (known.fillFrom found)

/-- What the artifacts in a directory say. -/
def extract (tree : Tree) (directory : Path) : Findings := gather tree directory Source.all Findings.nothing

end SingleFlight.Status
