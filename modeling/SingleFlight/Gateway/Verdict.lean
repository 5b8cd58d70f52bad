import SingleFlight.Gateway.Response
import SingleFlight.Text.Lines

/-!
What a gateway response means for the record of a run: how the run ended, and in a few words why it
did not end well.
-/

namespace SingleFlight.Gateway.Response

open Text

/-- A run without a verdict ended in error. The gateway and the exit code have to agree on success. -/
def runStatus (response : Response) : RunStatus :=
  if response.isTransportFailure then .error
  else if response.ok && response.exitCode.getD 0 = 0 then .success
  else .failure

/-- What is known of a failure besides its class. -/
def failureDetail (response : Response) : Option String :=
  response.error.or
    ((response.exitCode.map fun code => "exit code " ++ Decimal.text code.toInt).or (lastLine? response.stderr))

/-- The class of a failure, and behind a colon what else is known of it. -/
def errorSummary (response : Response) : Option String :=
  if response.runStatus = .success then none
  else match response.errorClass, response.failureDetail with
    | some errorClass, some detail => some (errorClass ++ ": " ++ detail)
    | some errorClass, none => some errorClass
    | none, detail => detail

/-- The response that stands for a gateway call that broke down. -/
def panicked (detail : String) (elapsed : Milliseconds) : Response :=
  failure panickedClass ("gateway call panicked: " ++ detail) elapsed

end SingleFlight.Gateway.Response
