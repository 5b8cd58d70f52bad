import SingleFlight.Dictionary
import SingleFlight.Path
import SingleFlight.Run.Filter

/-!
Status families: groups of actions whose latest run is reported as one status, with the places where
its artifacts may be found. Main rule: a run that failed for want of a login is waiting for a person.
-/

namespace SingleFlight.Status

open Text

structure Family where
  name : String
  actions : ActionFamily
  proofRoot : Option Path
  gatewayRoot : Option Path
  sessionRoot : Option Path
  authClasses : NameSet
  snapshot : Option Path

/-- The classes of errors that only a person can clear, unless a family names its own. -/
def defaultAuthClasses : List String :=
  ["AUTH_REQUIRED", "LOGIN_REQUIRED", "SESSION_EXPIRED", "SESSION_CHECK_TIMEOUT", "TWO_FACTOR_REQUIRED", "MFA_REQUIRED",
    "CAPTCHA_REQUIRED"]

/-- The form in which error classes are compared. -/
def normalClass (text : String) : String := asciiUpper (trim text)

def needsPerson (authClasses : NameSet) (errorClass : Option String) : Bool :=
  errorClass.any fun text => authClasses.contains (normalClass text)

/-- A failure that a person has to clear is no failure yet. -/
def reclassify (authClasses : NameSet) (status : ShownStatus) (errorClass : Option String) : ShownStatus :=
  if (status = .failure || status = .timeout) && needsPerson authClasses errorClass then .waitingForHuman else status

end SingleFlight.Status
