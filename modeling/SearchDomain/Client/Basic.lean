/-
  SearchDomain.Client.Basic

  A client of one search domain. A call either answers at once or makes one
  request and answers from the reply; which of the two, and the request, depend
  on the configuration alone.
-/
import SearchDomain.Client.Error
import SearchDomain.Config.Basic
import SearchDomain.Document.Answer
import SearchDomain.Document.Decode

namespace SearchDomain

/-! ## Calls -/

/-- What comes of a call: its result, and what was logged on the way. -/
structure Outcome (α : Type) where
  result : Except ClientError α
  entries : List LogEntry := []

namespace Outcome

def map {α β : Type} (f : α → β) (outcome : Outcome α) : Outcome β :=
  ⟨outcome.result.map f, outcome.entries⟩

end Outcome

/-- A call on the way to its outcome. -/
inductive Call (α : Type) where
  /-- There is nothing to send. -/
  | settled (outcome : Outcome α)
  /-- A request is sent, and the reply decides. -/
  | exchange (entries : List LogEntry) (request : Request)
      (finish : Except TransportFailure Reply → Outcome α)

namespace Call

def map {α β : Type} (f : α → β) : Call α → Call β
  | settled outcome => settled (outcome.map f)
  | exchange entries request finish =>
    exchange entries request fun reply => (finish reply).map f

def fail {α : Type} (error : ClientError) : Call α :=
  settled ⟨.error error, []⟩

/-- The requests that a call makes. -/
def requests {α : Type} : Call α → List Request
  | settled _ => []
  | exchange _ request _ => [request]

/-- Carries a call out over a transport: its outcome, and the transport's state after it. -/
def run {α σ : Type} (transport : Transport σ) (state : σ) : Call α → Outcome α × σ
  | settled outcome => (outcome, state)
  | exchange entries request finish =>
    let (reply, state) := transport.send request state
    let outcome := finish reply
    (⟨outcome.result, entries ++ outcome.entries⟩, state)

end Call

/-! ## The client -/

/-- A client of one search domain. -/
structure Client where
  config : Config
deriving DecidableEq, Repr

namespace Client

/-- What is logged when a client is made. -/
def creationEntry (client : Client) : LogEntry :=
  ⟨.debug, "CloudSearch client configured",
    [("api_version", .text client.config.apiVersion.text),
      ("mode", .text client.config.mode.text)]⟩

def withDomain (client : Client) (domain : String) : Client :=
  ⟨{ client.config with searchDomain := some domain }⟩

def withRegion (client : Client) (region : String) : Client :=
  ⟨{ client.config with region := region }⟩

def withVersion (client : Client) (version : ApiVersion) : Client :=
  ⟨{ client.config with apiVersion := version }⟩

def withMode (client : Client) (mode : Mode) : Client :=
  ⟨{ client.config with mode := mode }⟩

/-- The client as dumps show it. -/
def shown (client : Client) : String :=
  "CloudSearchClient \x7b config: " ++ client.config.shown ++ ", .. \x7d"

/-! ## Searching -/

/-- The URL that a search requests. It is made in the sandbox too. -/
def searchUrl (client : Client) (term : String) (options : SearchOptions) :
    Except ClientError String :=
  match client.config.searchUrl term options with
  | .ok url => .ok url
  | .error e => .error (.config e)

/-- What a reply to a search comes to. -/
def finishSearch (version : ApiVersion) (options : SearchOptions) (url : String) :
    Except TransportFailure Reply → Outcome Page
  | .error failure => ⟨.error (.service .search url (.transport failure)), []⟩
  | .ok reply =>
    if reply.isSuccess then
      -- without return fields the service sends ids alone
      let fieldsKey := if options.asksForFields then some version.hitFieldsMember else none
      match Page.ofResponse reply.body (options.pageSizeInForce version) fieldsKey with
      | .ok page =>
        ⟨.ok page, [⟨.debug, "Search completed",
          [("url", .text url), ("found", .number page.totalEntries),
            ("returned", .number page.length)]⟩]⟩
      | .error .noHits =>
        ⟨.error (.service .search url (.malformed PageError.noHits.message)), []⟩
      | .error .pageOverflow => ⟨.error (.service .search url .pageOverflow), []⟩
    else
      ⟨.error (.service .search url (.status reply.status)),
        [⟨.warn, "Search request failed",
          [("url", .text url), ("status", .number reply.status)]⟩]⟩

/-- Runs a search. In the sandbox it finds nothing. -/
def search (client : Client) (term : String) (options : SearchOptions) : Call Page :=
  match client.config.mode with
  | .sandbox =>
    .settled ⟨.ok Page.emptyFirst,
      [⟨.debug, "Sandbox mode, skipping search request", [("term", .text term)]⟩]⟩
  | .live =>
    match client.config.searchUrl term options with
    | .error e => .fail (.config e)
    | .ok url =>
      .exchange [⟨.debug, "Sending search request", [("url", .text url)]⟩] (.get url)
        (finishSearch client.config.apiVersion options url)

/-! ## Documents -/

/-- The batch that adds a document at a time in Unix seconds, and none in the sandbox. -/
def buildAdd (client : Client) (id : String) (fields : DocumentFields) (now : Int64) :
    Option DocumentBatch × List LogEntry :=
  match client.config.mode with
  | .sandbox => (none, [⟨.debug, "Sandbox mode, skipping add batch", [("id", .text id)]⟩])
  | .live => (some (.single (.adding id fields client.config.apiVersion now)), [])

/-- The batch that deletes a document at a time in Unix seconds, and none in the sandbox. -/
def buildDelete (client : Client) (id : String) (now : Int64) :
    Option DocumentBatch × List LogEntry :=
  match client.config.mode with
  | .sandbox => (none, [⟨.debug, "Sandbox mode, skipping delete batch", [("id", .text id)]⟩])
  | .live => (some (.single (.deleting id client.config.apiVersion now)), [])

/-- What a reply to a batch comes to. -/
def finishSubmit (url : String) : Except TransportFailure Reply → Outcome BatchAnswer
  | .error failure => ⟨.error (.service .document url (.transport failure)), []⟩
  | .ok reply =>
    if reply.isSuccess then
      match BatchAnswer.decode reply.body with
      | .error e => ⟨.error (.service .document url (.malformed e.message)), []⟩
      | .ok answer =>
        if answer.isSuccess then ⟨.ok answer, []⟩
        else
          ⟨.ok answer, [⟨.warn, "Document service reported batch errors",
            [("url", .text url), ("status", .text answer.status),
              ("errors", .number answer.errors.length)]⟩]⟩
    else
      ⟨.error (.service .document url (.status reply.status)),
        [⟨.warn, "Document batch failed",
          [("url", .text url), ("status", .number reply.status)]⟩]⟩

/-- Submits a batch. -/
def submit (client : Client) (batch : DocumentBatch) : Call BatchAnswer :=
  match client.config.batchUrl with
  | .error e => .fail (.config e)
  | .ok url =>
    .exchange
      [⟨.info, "Submitting document batch",
        [("url", .text url), ("operations", .number batch.operations.length)]⟩]
      (.post url batch.body DocumentBatch.contentType) (finishSubmit url)

/-- Submits a batch if there is one. -/
def submitBuilt (client : Client) :
    Option DocumentBatch × List LogEntry → Call (Option BatchAnswer)
  | (none, entries) => .settled ⟨.ok none, entries⟩
  | (some batch, _) => (client.submit batch).map some

/-- Adds a document, or replaces it. -/
def addDocument (client : Client) (id : String) (fields : DocumentFields) (now : Int64) :
    Call (Option BatchAnswer) :=
  client.submitBuilt (client.buildAdd id fields now)

/-- Replaces a document, which is adding it. -/
def updateDocument (client : Client) (id : String) (fields : DocumentFields) (now : Int64) :
    Call (Option BatchAnswer) :=
  client.addDocument id fields now

/-- Deletes a document. -/
def removeDocument (client : Client) (id : String) (now : Int64) : Call (Option BatchAnswer) :=
  client.submitBuilt (client.buildDelete id now)

end Client

/-! ## Indexed things -/

/-- Something that is kept in the index as a document. -/
structure IndexEntry where
  id : String
  fields : DocumentFields
  /-- Whether it belongs in the index at the moment. -/
  isWanted : Bool := true
deriving Repr

namespace Client

/-- Adds a thing that belongs in the index, and deletes any other. -/
def index (client : Client) (thing : IndexEntry) (now : Int64) : Call (Option BatchAnswer) :=
  if thing.isWanted then client.addDocument thing.id thing.fields now
  else client.removeDocument thing.id now

/-- Deletes a thing from the index. -/
def unindex (client : Client) (thing : IndexEntry) (now : Int64) : Call (Option BatchAnswer) :=
  client.removeDocument thing.id now

end Client

end SearchDomain
