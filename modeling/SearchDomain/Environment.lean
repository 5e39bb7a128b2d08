/-
  SearchDomain.Environment

  The environment variables that configure the library.
-/
import SearchDomain.Text.Blank

namespace SearchDomain

/-- The value of each variable that is set. -/
abbrev Environment := String → Option String

namespace Environment

def domainName : String := "CLOUDSEARCH_DOMAIN"

def regionName : String := "CLOUDSEARCH_REGION"

def apiVersionName : String := "CLOUDSEARCH_API_VERSION"

def modeName : String := "CLOUDSEARCH_MODE"

def endpointName : String := "CLOUDSEARCH_ENDPOINT"

def timeoutName : String := "CLOUDSEARCH_TIMEOUT_MS"

def logLevelName : String := "CLOUDSEARCH_LOG_LEVEL"

/-- An environment in which only the given variables are set. -/
def ofPairs (pairs : List (String × String)) : Environment :=
  fun name => pairs.lookup name

/-- The value of a variable that is set to more than white space. -/
def given? (env : Environment) (name : String) : Option String :=
  (env name).filter fun value => !Text.isBlankText value

end Environment

end SearchDomain
