import SingleFlight.Files.Failure

/-!
What is wrong with a configuration.
-/

namespace SingleFlight.Config

inductive Problem where
  | malformed
  | malformedFile (path : String)
  | unreadableFile (path : String) (failure : Files.Failure)
  | blankBaseUrl
  | zeroNormalTimeout
  | zeroStaleAfter
  | uncataloguedAction (project action : String)
  | blankFamilyName
  | repeatedFamily (name : String)
  deriving DecidableEq

def Problem.message : Problem → String
  | malformed => "invalid config: not a configuration in JSON"
  | malformedFile path => "invalid config: not a configuration in JSON (" ++ path ++ ")"
  | unreadableFile path failure => "failed to read config '" ++ path ++ "': " ++ failure.message
  | blankBaseUrl => "gateway.base_url must not be empty"
  | zeroNormalTimeout => "gateway.normal_timeout_secs must be greater than zero"
  | zeroStaleAfter => "locks.stale_after_secs must be greater than zero"
  | uncataloguedAction project action => "catalog.projects." ++ project ++ " names unknown action '" ++ action ++ "'"
  | blankFamilyName => "resolver family names must not be empty"
  | repeatedFamily name => "resolver family '" ++ name ++ "' is defined twice"

end SingleFlight.Config
