import SingleFlight.Dictionary
import SingleFlight.Run.Record

/-!
How long to wait for the gateway: a bound for each action, and the waits between health probes. Bounds
are in milliseconds, waits between probes in nanoseconds.
-/

namespace SingleFlight.Gateway

/-- Whether an action is expected to run for long. -/
inductive ActionClass where
  | normal
  | longRunning
  deriving DecidableEq

def ActionClass.name : ActionClass → String
  | normal => "normal"
  | longRunning => "long_running"

structure TimeoutPolicy where
  normal : Nat
  /-- Without a bound, long-running actions are waited for as long as they take. -/
  longRunning : Option Nat
  longRunningActions : NameSet

namespace TimeoutPolicy

def defaultNormalSeconds : Nat := 30

def defaultLongRunningSeconds : Nat := 1800

def defaultLongRunningActions : List Action := ["session_login", "session_login_interactive", "deploy", "backtest"]

def standard : TimeoutPolicy :=
  ⟨defaultNormalSeconds * 1000, some (defaultLongRunningSeconds * 1000), NameSet.ofList defaultLongRunningActions⟩

def classify (policy : TimeoutPolicy) (action : Action) : ActionClass :=
  if policy.longRunningActions.contains action then .longRunning else .normal

/-- The bound on the time that a run of an action may take. -/
def bound (policy : TimeoutPolicy) (action : Action) : Option Nat :=
  match policy.classify action with
  | .normal => some policy.normal
  | .longRunning => policy.longRunning

end TimeoutPolicy

structure HealthPolicy where
  timeout : Nat
  retries : UInt32
  /-- The first wait, in nanoseconds. -/
  backoff : Nat

namespace HealthPolicy

def defaultTimeoutSeconds : Nat := 5

def defaultRetries : UInt32 := 3

/-- In milliseconds. -/
def defaultBackoff : Nat := 500

def nanosecondsPerMillisecond : Nat := 1000000

def standard : HealthPolicy :=
  ⟨defaultTimeoutSeconds * 1000, defaultRetries, defaultBackoff * nanosecondsPerMillisecond⟩

/-- The longest span that can be waited: 64 bits of seconds, and all but the last nanosecond of one more. -/
def longestWait : Nat := (Nat.pow 2 64 - 1) * 1000000000 + 999999999

/-- The wait after an attempt grows with its number, up to the longest wait. -/
def waitAfter (policy : HealthPolicy) (attempt : Nat) : Nat := min (policy.backoff * attempt) longestWait

/-- The wait after an attempt, in whole milliseconds. -/
def backoffAfter (policy : HealthPolicy) (attempt : Nat) : Nat := policy.waitAfter attempt / nanosecondsPerMillisecond

/-- How many probes are made at most; there is always one. -/
def attempts (policy : HealthPolicy) : Nat := max policy.retries.toNat 1

end HealthPolicy

end SingleFlight.Gateway
