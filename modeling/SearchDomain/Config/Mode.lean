/-
  SearchDomain.Config.Mode

  Whether requests are sent, and how a mode and a version are chosen from what a
  caller and the environment say.
-/
import SearchDomain.ApiVersion
import SearchDomain.Config.Error
import SearchDomain.Environment
import SearchDomain.Log

namespace SearchDomain

/-- Whether requests are sent. -/
inductive Mode where
  | live
  /-- Nothing is sent: searches find nothing, and documents are left alone. -/
  | sandbox
deriving DecidableEq, Repr

namespace Mode

def text : Mode → String
  | live => "live"
  | sandbox => "sandbox"

/-- The mode that a text names, in any case and with white space around it. -/
def parse (s : String) : Except ConfigError Mode :=
  let name := (Text.trim s).map Char.toLower
  if name = live.text then .ok live
  else if name = sandbox.text then .ok sandbox
  else .error (.invalidMode s)

/-- The mode that the environment asks for; what it cannot mean is reported and passed over. -/
def fromEnvironment (value : Option String) : Mode × List LogEntry :=
  match value with
  | none => (live, [])
  | some raw =>
    match parse raw with
    | .ok mode => (mode, [])
    | .error e => (live, [⟨.warn, e.message ++ "; using live mode", []⟩])

end Mode

namespace ApiVersion

/-- The version that a text names, with white space around it. -/
def parse (s : String) : Except ConfigError ApiVersion :=
  match ofText? s with
  | some version => .ok version
  | none => .error (.unsupportedVersion (Text.trim s))

/-- The version that the environment asks for; what it cannot mean is reported and passed over. -/
def fromEnvironment (value : Option String) : ApiVersion × List LogEntry :=
  match (value.map Text.trim).filter (· ≠ "") with
  | none => (default, [])
  | some raw =>
    match parse raw with
    | .ok version => (version, [])
    | .error _ =>
      (default,
        [⟨.warn, "Ignoring unsupported " ++ Environment.apiVersionName ++ "; using default " ++
          default.text, [("value", .text raw)]⟩])

/-- The version in force: the caller's, which must be one, before the environment's. -/
def resolve (explicit environment : Option String) :
    Except ConfigError ApiVersion × List LogEntry :=
  match explicit with
  | some s => (parse s, [])
  | none =>
    let (version, entries) := fromEnvironment environment
    (.ok version, entries)

end ApiVersion

end SearchDomain
