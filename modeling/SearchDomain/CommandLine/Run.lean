/-
  SearchDomain.CommandLine.Run

  Carrying out an invocation: its configuration, and the one call it makes.
-/
import SearchDomain.Client.Basic
import SearchDomain.CommandLine.Arguments

namespace SearchDomain.CommandLine

/-- Why a command failed. -/
inductive CommandError where
  | client (error : ClientError)
  /-- The filter is JSON but no filter. -/
  | filter (error : FilterError)
  | filterNotJson
  | fieldsNotJson
  | fieldsNotObject
deriving DecidableEq, Repr

namespace CommandError

def message : CommandError → String
  | client error => error.message
  | filter error => (ConfigError.invalidFilter error).message
  | filterNotJson => "--filter is not valid JSON"
  | fieldsNotJson => "fields are not valid JSON"
  | fieldsNotObject => "fields must be a JSON object"

end CommandError

namespace Invocation

/-- The configuration that an invocation asks for. The version may also come from the
environment. -/
def config (invocation : Invocation) (env : Environment) : Except ConfigError Config := do
  let apiVersion ←
    (ApiVersion.resolve invocation.apiVersion (env Environment.apiVersionName)).1
  return {
    searchDomain := invocation.domain
    region := invocation.region
    apiVersion := apiVersion
    mode := if invocation.sandbox then .sandbox else invocation.mode
    endpoint := invocation.endpoint
    timeout := invocation.timeout }

end Invocation

/-! ## Input -/

/-- The filter that a text spells in JSON. -/
def readFilter (text : String) : Except CommandError Filter :=
  match Json.read text with
  | none => .error .filterNotJson
  | some json =>
    match Filter.ofJson json with
    | .error e => .error (.filter e)
    | .ok filter => .ok filter

/-- The filter that an option spells, if it is given. -/
def readFilter? : Option String → Except CommandError (Option Filter)
  | none => .ok none
  | some text => (readFilter text).map some

/-- The fields that a text spells in JSON. -/
def readFields (text : String) : Except CommandError DocumentFields :=
  match Json.read text with
  | none => .error .fieldsNotJson
  | some json =>
    match DocumentFields.ofJson? json with
    | none => .error .fieldsNotObject
    | some fields => .ok fields

/-- The names of fields, without white space around them and without blank ones. -/
def fieldNames (names : List String) : List String :=
  (names.map Text.trim).filter (· ≠ "")

/-! ## Output -/

/-- A page as it is printed. -/
def pageToJson (page : Page) : Json :=
  .object [("total_entries", .whole page.totalEntries), ("current_page", .whole page.currentPage),
    ("total_pages", .whole page.totalPages), ("page_size", .whole page.pageSize),
    ("cursor", .optionalString page.cursor), ("hits", page.hits.toJson)]

/-- The answer to a batch as it is printed; nothing is printed for none. -/
def printAnswer : Option BatchAnswer → String
  | some answer => answer.toJson.pretty ++ "\n"
  | none => ""

/-! ## Commands -/

/-- What a command comes to: text to print, at once or after a call, or an error. -/
inductive Action where
  | print (text : String)
  | fail (error : CommandError)
  | request (call : Call String)

/-- What a command does with a client at a time in Unix seconds. -/
def Command.action (client : Client) (now : Int64) : Command → Action
  | .search term filter page pageSize returnFields rank cursor urlOnly =>
    match readFilter? filter with
    | .error e => .fail e
    | .ok filter =>
      let options : SearchOptions :=
        { filter := filter, pageSize := pageSize, page := page,
          returnFields := fieldNames returnFields, rank := rank.map Rank.ofText,
          cursor := cursor }
      if urlOnly then
        match client.searchUrl term options with
        | .ok url => .print (url ++ "\n")
        | .error e => .fail (.client e)
      else
        .request ((client.search term options).map fun page => (pageToJson page).pretty ++ "\n")
  | .add id fields =>
    match readFields fields with
    | .error e => .fail e
    | .ok fields => .request ((client.addDocument id fields now).map printAnswer)
  | .update id fields =>
    match readFields fields with
    | .error e => .fail e
    | .ok fields => .request ((client.updateDocument id fields now).map printAnswer)
  | .remove id => .request ((client.removeDocument id now).map printAnswer)

/-- A command carried out. -/
structure Report where
  /-- What was printed; nothing when the command failed. -/
  output : String := ""
  failure : Option CommandError := none
  requests : List Request := []

/-- Carries out what a command comes to. -/
def Action.run {σ : Type} (transport : Transport σ) (state : σ) : Action → Report × σ
  | .print text => ({ output := text }, state)
  | .fail error => ({ failure := some error }, state)
  | .request call =>
    let (outcome, state) := call.run transport state
    match outcome.result with
    | .ok text => ({ output := text, requests := call.requests }, state)
    | .error e => ({ failure := some (.client e), requests := call.requests }, state)

/-! ## A whole run -/

/-- What a whole run comes to. -/
inductive RunResult where
  | usage (error : UsageError)
  /-- The configuration cannot be made. -/
  | noConfig (error : ConfigError)
  /-- The configuration is unfit for use. -/
  | unfit (config : Config) (logLevel : String) (problems : List Config.Problem)
  | finished (config : Config) (logLevel : String) (report : Report)

/-- From the arguments and the environment to what is printed. -/
def run {σ : Type} (transport : Transport σ) (state : σ) (now : Int64) (args : List String)
    (env : Environment) : RunResult :=
  match parse args env with
  | .error e => .usage e
  | .ok invocation =>
    match invocation.config env with
    | .error e => .noConfig e
    | .ok config =>
      match config.problems with
      | [] =>
        .finished config invocation.logLevel
          ((invocation.command.action ⟨config⟩ now).run transport state).1
      | problems => .unfit config invocation.logLevel problems

end SearchDomain.CommandLine
