/-
  SearchDomain.Client.Session

  A client at work: a sequence of things asked of it, carried out one after
  another over a transport.
-/
import SearchDomain.Client.Basic

namespace SearchDomain

/-- Something that is asked of a client. -/
inductive Step where
  | setDomain (domain : String)
  | setRegion (region : String)
  | setVersion (version : ApiVersion)
  | setMode (mode : Mode)
  | searchUrl (term : String) (options : SearchOptions)
  | search (term : String) (options : SearchOptions)
  | buildAdd (id : String) (fields : DocumentFields)
  | buildDelete (id : String)
  | add (id : String) (fields : DocumentFields)
  | update (id : String) (fields : DocumentFields)
  | remove (id : String)
  | index (thing : IndexEntry)
  | unindex (thing : IndexEntry)
deriving Repr

/-- What a step answers. -/
inductive StepAnswer where
  | done
  | url (result : Except ClientError String)
  | page (result : Except ClientError Page)
  | batch (batch : Option DocumentBatch)
  | submitted (result : Except ClientError (Option BatchAnswer))

/-- A step carried out: its answer, the requests it made, and what was logged. -/
structure StepRecord where
  answer : StepAnswer
  requests : List Request := []
  entries : List LogEntry := []

/-- A client and the state of its transport. -/
structure Session (σ : Type) where
  client : Client
  state : σ

namespace Session

variable {σ : Type}

/-- Carries out a call, which leaves the client as it is. -/
def perform {α : Type} (transport : Transport σ) (session : Session σ) (call : Call α)
    (answer : Except ClientError α → StepAnswer) : StepRecord × Session σ :=
  let (outcome, state) := call.run transport session.state
  (⟨answer outcome.result, call.requests, outcome.entries⟩, ⟨session.client, state⟩)

/-- Carries out a step at a time in Unix seconds. -/
def step (transport : Transport σ) (now : Int64) (session : Session σ) :
    Step → StepRecord × Session σ
  | .setDomain domain => ({ answer := .done }, ⟨session.client.withDomain domain, session.state⟩)
  | .setRegion region => ({ answer := .done }, ⟨session.client.withRegion region, session.state⟩)
  | .setVersion version =>
    ({ answer := .done }, ⟨session.client.withVersion version, session.state⟩)
  | .setMode mode => ({ answer := .done }, ⟨session.client.withMode mode, session.state⟩)
  | .searchUrl term options => ({ answer := .url (session.client.searchUrl term options) }, session)
  | .search term options =>
    session.perform transport (session.client.search term options) .page
  | .buildAdd id fields =>
    let (batch, entries) := session.client.buildAdd id fields now
    ({ answer := .batch batch, entries := entries }, session)
  | .buildDelete id =>
    let (batch, entries) := session.client.buildDelete id now
    ({ answer := .batch batch, entries := entries }, session)
  | .add id fields =>
    session.perform transport (session.client.addDocument id fields now) .submitted
  | .update id fields =>
    session.perform transport (session.client.updateDocument id fields now) .submitted
  | .remove id => session.perform transport (session.client.removeDocument id now) .submitted
  | .index thing => session.perform transport (session.client.index thing now) .submitted
  | .unindex thing => session.perform transport (session.client.unindex thing now) .submitted

/-- Carries out steps one after another, each at its own time in Unix seconds. -/
def run (transport : Transport σ) (session : Session σ) :
    List (Int64 × Step) → List StepRecord × Session σ
  | [] => ([], session)
  | (now, first) :: rest =>
    let (record, session) := session.step transport now first
    let (records, session) := session.run transport rest
    (record :: records, session)

end Session

end SearchDomain
