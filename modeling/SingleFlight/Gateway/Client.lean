import SingleFlight.Gateway.Decoding
import SingleFlight.Gateway.Health

/-!
Gateway clients: where the gateway is, what to show it, and how long to wait for it.
-/

namespace SingleFlight.Gateway

open Text Web

structure Client where
  baseUrl : String
  token : Option String
  timeouts : TimeoutPolicy
  health : HealthPolicy

namespace Client

/-- A client for the gateway at an address, whose slashes at the end are dropped. A blank token is none. -/
def of (address : String) (token : Option String) (timeouts : TimeoutPolicy) (health : HealthPolicy) : Client :=
  ⟨String.ofList (dropEndWhile (· = '/') address.toList), filled token, timeouts, health⟩

def authorization (client : Client) : Option String := client.token.map ("Bearer " ++ ·)

def executeUrl (client : Client) (request : Request) : String := client.baseUrl ++ "/v1/actions/" ++ request.target

def requestBody (request : Request) : Json :=
  .object [("action", .text request.action), ("run_id", .text request.runId.text)]

def executeCall (client : Client) (request : Request) (address : Address) : Call where
  method := .post
  address := address
  authorization := client.authorization
  runId := some request.runId.text
  contentType := some "application/json"
  body := some (requestBody request)

variable {ν : Type}

/-- Has the gateway run an action, which took the given time. -/
def execute (client : Client) (network : Network ν) (request : Request) (elapsed : Milliseconds) (state : ν) :
    Response × ν :=
  let bound := client.timeouts.bound request.action
  match network.fetch bound (client.executeUrl request) (client.executeCall request) state with
  | (outcome, after) => (.ofOutcome bound elapsed outcome, after)

def healthUrl (client : Client) : String := client.baseUrl ++ "/health"

def healthCall (client : Client) (address : Address) : Call :=
  ⟨.get, address, client.authorization, none, none, none⟩

/-- Asks the gateway once for its health. -/
def isHealthy (client : Client) (network : Network ν) (state : ν) : Bool × ν :=
  match network.fetch (some client.health.timeout) client.healthUrl client.healthCall state with
  | (.ok answer, after) => (decide (answer.status < 400), after)
  | (.error _, after) => (false, after)

/-- Probes the health of the gateway, which took the given time. -/
def checkHealth (client : Client) (network : Network ν) (elapsed : Milliseconds) (state : ν) : HealthReport × ν :=
  match client.health.probe (client.isHealthy network) state with
  | (probing, after) => (⟨probing.ok, elapsed⟩, after)

end Client

end SingleFlight.Gateway
