import SingleFlight.Gateway.Timeout
import SingleFlight.Json.Value

/-!
Health probes: the gateway is asked again and again, with growing waits, until it answers well or the
attempts run out.
-/

namespace SingleFlight.Gateway

structure HealthReport where
  ok : Bool
  duration : Milliseconds
  deriving DecidableEq

/-- The report where the probing itself broke down. -/
def HealthReport.fallback : HealthReport := ⟨false, 0⟩

def HealthReport.toJson (report : HealthReport) : Json :=
  .object [("ok", .bool report.ok), ("duration_ms", .ofNat report.duration.toNat)]

/-- What is done in the course of probing. -/
inductive ProbeStep where
  | asked (answered : Bool)
  /-- A wait, in nanoseconds. -/
  | waited (span : Nat)
  deriving DecidableEq

/-- What came of probing: whether a probe succeeded, and what was done from first to last. -/
structure Probing where
  ok : Bool
  steps : List ProbeStep
  deriving DecidableEq

namespace HealthPolicy

variable {ν : Type}

/-- Makes probes from the one of a given number on, at most as many as remain. -/
def probeFrom (policy : HealthPolicy) (probe : ν → Bool × ν) (attempt : Nat) : Nat → ν → Probing × ν
  | 0, state => (⟨false, []⟩, state)
  | remaining + 1, state =>
    match probe state with
    | (true, after) => (⟨true, [.asked true]⟩, after)
    | (false, after) =>
      if remaining = 0 then (⟨false, [.asked false]⟩, after)
      else match probeFrom policy probe (attempt + 1) remaining after with
        | (probing, last) =>
          ({ probing with steps := .asked false :: .waited (policy.waitAfter attempt) :: probing.steps }, last)

def probe (policy : HealthPolicy) (probe : ν → Bool × ν) (state : ν) : Probing × ν :=
  policy.probeFrom probe 1 policy.attempts state

end HealthPolicy

end SingleFlight.Gateway
