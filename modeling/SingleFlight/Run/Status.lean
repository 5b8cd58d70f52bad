import SingleFlight.Text.Ascii
import SingleFlight.Text.Blank

/-!
How a run ended, in the ledger and in the words that are shown. A ledger entry knows three ends; the
shown status also knows what outside programs report in words of their own.
-/

namespace SingleFlight

open Text

/-- The end of a run as the ledger records it. -/
inductive RunStatus where
  | success
  | failure
  | error
  deriving DecidableEq

namespace RunStatus

def name : RunStatus → String
  | success => "success"
  | failure => "failure"
  | error => "error"

def ofName? (text : String) : Option RunStatus :=
  if text = "success" then some success
  else if text = "failure" then some failure
  else if text = "error" then some error
  else none

theorem ofName?_name (status : RunStatus) : ofName? status.name = some status := by
  cases status <;> rfl

end RunStatus

/-- The status that is shown for a family of actions. -/
inductive ShownStatus where
  | success
  | waitingForHuman
  | failure
  | timeout
  | blocked
  | unknown
  | running
  deriving DecidableEq

namespace ShownStatus

def name : ShownStatus → String
  | success => "SUCCESS"
  | waitingForHuman => "WAITING_FOR_HUMAN"
  | failure => "FAILURE"
  | timeout => "TIMEOUT"
  | blocked => "BLOCKED"
  | unknown => "UNKNOWN"
  | running => "running"

def all : List ShownStatus := [success, waitingForHuman, failure, timeout, blocked, unknown, running]

def ofName? (text : String) : Option ShownStatus := all.find? (·.name == text)

theorem ofName?_name (status : ShownStatus) : ofName? status.name = some status := by
  cases status <;> decide

/-- The words for each status, in lower case. -/
def words : List (String × ShownStatus) :=
  [("success", success), ("succeeded", success), ("ok", success), ("failure", failure), ("failed", failure),
    ("error", failure), ("timeout", timeout), ("timed_out", timeout), ("blocked", blocked),
    ("waiting_for_human", waitingForHuman), ("running", running), ("in_progress", running), ("started", running)]

/-- Reads a status in the words of outside programs: blanks around it and the case of ASCII letters
do not matter, and what no word is known for is unknown. -/
def normalize (text : String) : ShownStatus :=
  ((words.find? (·.1 == asciiLower (trim text))).map (·.2)).getD unknown

end ShownStatus

end SingleFlight
