/-
  SearchDomain.Config.Basic

  The configuration of a client: where it comes from, what it addresses, and
  what can be wrong with it.
-/
import SearchDomain.Config.Mode
import SearchDomain.Json.Decode
import SearchDomain.Query.Url
import SearchDomain.Web.Address

namespace SearchDomain

/-- The configuration of a client. -/
structure Config where
  /-- The name of the search domain, needed for every request. -/
  searchDomain : Option String := none
  region : String := "us-east-1"
  apiVersion : ApiVersion := .default
  mode : Mode := .live
  /-- The host that takes the place of the public ones. -/
  endpoint : Option String := none
  /-- How many milliseconds a request may take. -/
  timeout : Nat := 30000
deriving DecidableEq, Repr

namespace Config

/-- The configuration that leaves everything open. -/
def default : Config := {}

/-- The configuration for a domain that leaves everything else open. -/
def forDomain (domain : String) : Config :=
  { searchDomain := some domain }

/-- The configuration that the environment asks for. A variable with nothing but white space
counts as not set. -/
def fromEnvironment (env : Environment) : Config × List LogEntry :=
  let (apiVersion, versionEntries) :=
    ApiVersion.fromEnvironment (env.given? Environment.apiVersionName)
  let (mode, modeEntries) := Mode.fromEnvironment (env.given? Environment.modeName)
  ({ searchDomain := env.given? Environment.domainName
     region := (env.given? Environment.regionName).getD default.region
     apiVersion := apiVersion
     mode := mode
     endpoint := env.given? Environment.endpointName },
    versionEntries ++ modeEntries)

/-! ## JSON -/

def toJson (config : Config) : Json :=
  .object [("search_domain", .optionalString config.searchDomain),
    ("aws_region", .string config.region), ("api_version", .string config.apiVersion.text),
    ("mode", .string config.mode.text), ("endpoint", .optionalString config.endpoint),
    ("request_timeout_ms", .whole config.timeout)]

def decodeVersion : Json.Decoder ApiVersion :=
  Json.decodeName (ApiVersion.legacy.text, .legacy) (ApiVersion.structured.text, .structured)

def decodeMode : Json.Decoder Mode :=
  Json.decodeName (Mode.live.text, .live) (Mode.sandbox.text, .sandbox)

def decodeText : Json.Decoder (Option String) :=
  Json.decodeOption Json.decodeString

/-- Every member may be missing. -/
def decode : Json.Decoder Config
  | .array items => do
    let searchDomain ← Json.itemOr items 0 decodeText (.ok none)
    let region ← Json.itemOr items 1 Json.decodeString (.ok default.region)
    let apiVersion ← Json.itemOr items 2 decodeVersion (.ok default.apiVersion)
    let mode ← Json.itemOr items 3 decodeMode (.ok default.mode)
    let endpoint ← Json.itemOr items 4 decodeText (.ok none)
    let timeout ← Json.itemOr items 5 Json.decodeNat64 (.ok default.timeout)
    Json.checkLength 6 items
    return ⟨searchDomain, region, apiVersion, mode, endpoint, timeout⟩
  | .object members => do
    Json.checkMembers (fun name json =>
      if name = "search_domain" ∨ name = "endpoint" then Json.checkWith decodeText json
      else if name = "aws_region" then Json.checkWith Json.decodeString json
      else if name = "api_version" then Json.checkWith decodeVersion json
      else if name = "mode" then Json.checkWith decodeMode json
      else if name = "request_timeout_ms" then Json.checkWith Json.decodeNat64 json
      else .ok ()) members
    let searchDomain ← Json.memberOr members "search_domain" decodeText (.ok none)
    let region ← Json.memberOr members "aws_region" Json.decodeString (.ok default.region)
    let apiVersion ← Json.memberOr members "api_version" decodeVersion (.ok default.apiVersion)
    let mode ← Json.memberOr members "mode" decodeMode (.ok default.mode)
    let endpoint ← Json.memberOr members "endpoint" decodeText (.ok none)
    let timeout ← Json.memberOr members "request_timeout_ms" Json.decodeNat64
      (.ok default.timeout)
    return ⟨searchDomain, region, apiVersion, mode, endpoint, timeout⟩
  | other => Json.mismatch "struct CloudSearchConfig" other

/-! ## Addresses -/

/-- The search domain without white space around it, if there is anything else. -/
def domain? (config : Config) : Option String :=
  (config.searchDomain.map Text.trim).filter (· ≠ "")

/-- The search domain, which no request can do without. -/
def requireDomain (config : Config) : Except ConfigError String :=
  match config.domain? with
  | some domain => .ok domain
  | none => .error (.missing "search_domain")

/-- The public host of a service for a domain. -/
def publicHost (config : Config) (service domain : String) : String :=
  "http://" ++ service ++ "-" ++ domain ++ "." ++ config.region ++ ".cloudsearch.amazonaws.com"

/-- The host of a service for a domain: the endpoint without slashes at its end if there is one, and
else the public one. -/
def host (config : Config) (service domain : String) : String :=
  match config.endpoint with
  | some endpoint => Text.trimEndSlashes endpoint
  | none => config.publicHost service domain

/-- The host of searches in a domain. -/
def searchHost (config : Config) (domain : String) : String :=
  config.host "search" domain

/-- The host of document batches for a domain. -/
def documentHost (config : Config) (domain : String) : String :=
  config.host "doc" domain

/-- The URL to which document batches go. -/
def batchUrl (config : Config) : Except ConfigError String := do
  let domain ← config.requireDomain
  return config.documentHost domain ++ "/" ++ config.apiVersion.text ++ "/documents/batch"

/-- The URL to which a search goes. -/
def searchUrl (config : Config) (term : String) (options : SearchOptions) :
    Except ConfigError String := do
  let domain ← config.requireDomain
  return Query.searchUrl (config.searchHost domain) config.apiVersion term options

/-! ## Validation -/

/-- Something that makes a configuration unfit for use. -/
inductive Problem where
  | noDomain
  | blankRegion
  | zeroTimeout
  | badEndpoint (endpoint : String)
deriving DecidableEq, Repr

def Problem.message : Problem → String
  | noDomain => "Search domain must be set in live mode"
  | blankRegion => "AWS region cannot be empty"
  | zeroTimeout => "Request timeout cannot be 0"
  | badEndpoint endpoint => "Endpoint is not a valid URL: " ++ endpoint

/-- Everything that makes the configuration unfit for use. -/
def problems (config : Config) : List Problem :=
  (if config.mode = .live ∧ config.domain? = none then [.noDomain] else []) ++
  (if Text.isBlankText config.region then [.blankRegion] else []) ++
  (if config.timeout = 0 then [.zeroTimeout] else []) ++
  match config.endpoint with
  | some endpoint => if Web.isAbsoluteUrl endpoint then [] else [.badEndpoint endpoint]
  | none => []

/-! ## Showing -/

/-- An optional text as dumps show it. -/
def showOptional : Option String → String
  | some s => "Some(" ++ Text.shown s ++ ")"
  | none => "None"

def showVersion : ApiVersion → String
  | .legacy => "Legacy"
  | .structured => "Structured"

def showMode : Mode → String
  | .live => "Live"
  | .sandbox => "Sandbox"

/-- The configuration as dumps show it. -/
def shown (config : Config) : String :=
  "CloudSearchConfig \x7b search_domain: " ++ showOptional config.searchDomain ++
    ", aws_region: " ++ Text.shown config.region ++
    ", api_version: " ++ showVersion config.apiVersion ++
    ", mode: " ++ showMode config.mode ++
    ", endpoint: " ++ showOptional config.endpoint ++
    ", request_timeout_ms: " ++ toString config.timeout ++ " \x7d"

end Config

end SearchDomain
