/-
  SearchDomain.Config.Error

  What can be wrong before any request is made.
-/
import SearchDomain.Filter.OfJson

namespace SearchDomain

/-- An error in settings or in the input of a request. -/
inductive ConfigError where
  /-- A setting is needed and not given. -/
  | missing (setting : String)
  | unsupportedVersion (version : String)
  | invalidMode (mode : String)
  | invalidFilter (error : FilterError)
deriving DecidableEq, Repr

namespace ConfigError

def message : ConfigError → String
  | missing setting => "missing configuration: " ++ setting ++ " must be set before use"
  | unsupportedVersion version => "unsupported API version: " ++ version
  | invalidMode mode => "invalid mode: " ++ mode ++ " (expected 'live' or 'sandbox')"
  | invalidFilter error => "invalid filter: " ++ error.message

end ConfigError

end SearchDomain
