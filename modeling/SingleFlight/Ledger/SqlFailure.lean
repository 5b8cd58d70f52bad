import SingleFlight.Text.Decimal

/-!
Why an operation on the tables of the ledger fails. `engine` is what the tables themselves refuse;
the other causes are found by the ledger.
-/

namespace SingleFlight.Ledger

open Text

inductive SqlFailure where
  | schemaOutdated
  | unprintableTime
  | valueTooLarge
  | invalidRunId (text : String)
  | unknownStatus (text : String)
  | negativeDuration
  | invalidTimestamp (text : String)
  | invalidTarget (version : Int)
  | undefinedMigration (version : Int)
  | engine (detail : String)
  deriving DecidableEq

def SqlFailure.message : SqlFailure → String
  | schemaOutdated => "run ledger schema is not up to date; apply migrations before ledger operations"
  | unprintableTime => "failed to format timestamp: a part of it has no place in the text form"
  | valueTooLarge => "value exceeds i64 range"
  | invalidRunId text => "invalid run id '" ++ text ++ "' in sqlite record"
  | unknownStatus text => "unknown run status '" ++ text ++ "' in sqlite record"
  | negativeDuration => "negative duration in sqlite record"
  | invalidTimestamp text => "invalid timestamp '" ++ text ++ "' in sqlite record: not an RFC 3339 time"
  | invalidTarget version => "invalid migration target version '" ++ Decimal.text version ++ "'"
  | undefinedMigration version => "migration version '" ++ Decimal.text version ++ "' is not defined"
  | engine detail => detail

end SingleFlight.Ledger
