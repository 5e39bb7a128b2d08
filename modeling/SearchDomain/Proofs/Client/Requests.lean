/-
  SearchDomain.Proofs.Client.Requests

  When a client sends requests, over whole runs. The setters change the
  configuration between calls, and each call goes by the configuration in force
  at its moment: it sends one request if that configuration is live and has a
  domain, and it sends it where that configuration points.

  The records of a run say which requests were made. That the transport gets
  exactly these, and gets them in time, is seen by a transport that keeps what
  it is sent.
-/
import SearchDomain.Client.Session
import SearchDomain.Proofs.Client.Calls
import SearchDomain.Transport.Queue

namespace SearchDomain

/-! ## Expectations -/

namespace Step

/-- The configuration after a step, which only the setters change. -/
def configure (config : Config) : Step → Config
  | .setDomain domain => { config with searchDomain := some domain }
  | .setRegion region => { config with region := region }
  | .setVersion version => { config with apiVersion := version }
  | .setMode mode => { config with mode := mode }
  | _ => config

def isSearch : Step → Bool
  | .search _ _ => true
  | _ => false

/-- Whether a step is a call that changes documents. -/
def isDocumentCall : Step → Bool
  | .add _ _ | .update _ _ | .remove _ | .index _ | .unindex _ => true
  | _ => false

/-- Whether a step is a call to the service. -/
def callsService (step : Step) : Bool :=
  step.isSearch || step.isDocumentCall

/-- The batch that a call submits, as the calls that only build batches give it. -/
def builtBatch (config : Config) (now : Int64) : Step → Option DocumentBatch
  | .add id fields | .update id fields => (Client.buildAdd ⟨config⟩ id fields now).1
  | .remove id => (Client.buildDelete ⟨config⟩ id now).1
  | .index thing =>
    if thing.isWanted then (Client.buildAdd ⟨config⟩ thing.id thing.fields now).1
    else (Client.buildDelete ⟨config⟩ thing.id now).1
  | .unindex thing => (Client.buildDelete ⟨config⟩ thing.id now).1
  | _ => none

/-- What is expected of a step that is carried out at a time in Unix seconds while a
configuration is in force. -/
structure Conforms (config : Config) (now : Int64) (step : Step) (record : StepRecord) :
    Prop where
  length_requests :
    record.requests.length = if step.callsService && config.isReady then 1 else 0
  url_of_get : ∀ url, .get url ∈ record.requests →
    ∃ term options domain, step = .search term options ∧
      config.searchDomain = some domain ∧
      Client.searchUrl ⟨config⟩ term options = .ok url ∧
      url = config.builtSearchUrl (Text.trim domain) term options
  url_of_post : ∀ url body contentType, .post url body contentType ∈ record.requests →
    step.isDocumentCall = true ∧ config.batchUrl = .ok url ∧
      ∃ batch, step.builtBatch config now = some batch ∧ body = batch.body ∧
        contentType = DocumentBatch.contentType
  search_of_sandbox : step.isSearch = true → config.mode = .sandbox →
    ∃ page, record.answer = .page (.ok page) ∧ page.IsEmptyFirst
  documentCall_of_sandbox : step.isDocumentCall = true → config.mode = .sandbox →
    record.answer = .submitted (.ok none)
  search_of_noDomain : step.isSearch = true → config.mode = .live → config.hasDomain = false →
    record.answer = .page (.error (.config (.missing "search_domain")))
  documentCall_of_noDomain : step.isDocumentCall = true → config.mode = .live →
    config.hasDomain = false →
    record.answer = .submitted (.error (.config (.missing "search_domain")))

end Step

/-! ## One step -/

namespace Session

variable {σ : Type} (transport : Transport σ) (session : Session σ)

theorem config_step (now : Int64) (step : Step) :
    (session.step transport now step).2.client.config =
      step.configure session.client.config := by
  cases step <;> rfl

/-- A step that only answers conforms if it calls nothing. -/
theorem conforms_of_noRequests {now : Int64} {step : Step} {record : StepRecord}
    (hs : step.callsService = false) (hr : record.requests = []) :
    Step.Conforms session.client.config now step record := by
  obtain ⟨hsearch, hdocument⟩ := Bool.or_eq_false_iff.1 hs
  constructor
  case length_requests => rw [hr, hs]; rfl
  case url_of_get => simp [hr]
  case url_of_post => simp [hr]
  all_goals simp [hsearch, hdocument]

theorem conforms_search (now : Int64) (term : String) (options : SearchOptions) :
    Step.Conforms session.client.config now (.search term options)
      (session.step transport now (.search term options)).1 := by
  have hcourse := session.client.search_course term options
  constructor
  case length_requests => exact hcourse.length_requests
  case url_of_get =>
    intro url hmem
    obtain ⟨domain, hs, hurl, hshown⟩ := hcourse.of_mem_requests hmem
    rw [Request.get.injEq] at hurl
    exact ⟨term, options, domain, rfl, hs, hurl ▸ hshown, hurl⟩
  case url_of_post =>
    intro url body contentType hmem
    obtain ⟨domain, hs, hurl, hshown⟩ := hcourse.of_mem_requests hmem
    exact nomatch hurl
  case search_of_sandbox =>
    intro _ hm
    have hpage := hcourse.result_of_sandbox transport session.state hm
    exact ⟨Page.emptyFirst, congrArg StepAnswer.page hpage, Page.isEmptyFirst_emptyFirst⟩
  case search_of_noDomain =>
    intro _ hm hd
    exact congrArg StepAnswer.page
      (hcourse.result_of_hasDomain_eq_false transport session.state hm hd)
  case documentCall_of_sandbox => exact nofun
  case documentCall_of_noDomain => exact nofun

/-- All calls that change documents conform, since all take the same courses. -/
theorem conforms_documentCall {now : Int64} {step : Step} (hs : step.isDocumentCall = true)
    {call : Call (Option BatchAnswer)}
    (hcourse : Call.Course session.client.config none
      (Client.IsBatchRequest session.client.config (step.builtBatch session.client.config now))
      call) :
    Step.Conforms session.client.config now step
      (session.perform transport call .submitted).1 := by
  have hsearch : step.isSearch = false := by
    cases step <;> first | rfl | exact nomatch hs
  -- what is said of searches alone holds for want of a search
  constructor
  case length_requests =>
    rw [Step.callsService, hs, Bool.or_true, Bool.true_and]
    exact hcourse.length_requests
  case url_of_get =>
    intro url hmem
    obtain ⟨_, _, _, hpost, _⟩ := hcourse.of_mem_requests hmem
    exact nomatch hpost
  case url_of_post =>
    intro url body contentType hmem
    obtain ⟨_, batch, hbatch, hpost, hurl⟩ := hcourse.of_mem_requests hmem
    rw [Request.post.injEq] at hpost
    obtain ⟨rfl, hbody, htype⟩ := hpost
    exact ⟨hs, hurl, batch, hbatch, hbody, htype⟩
  case documentCall_of_sandbox =>
    intro _ hm
    exact congrArg StepAnswer.submitted (hcourse.result_of_sandbox transport session.state hm)
  case documentCall_of_noDomain =>
    intro _ hm hd
    exact congrArg StepAnswer.submitted
      (hcourse.result_of_hasDomain_eq_false transport session.state hm hd)
  all_goals simp [hsearch]

theorem conforms_step (now : Int64) (step : Step) :
    Step.Conforms session.client.config now step (session.step transport now step).1 := by
  cases step with
  | setDomain domain => exact session.conforms_of_noRequests rfl rfl
  | setRegion region => exact session.conforms_of_noRequests rfl rfl
  | setVersion version => exact session.conforms_of_noRequests rfl rfl
  | setMode mode => exact session.conforms_of_noRequests rfl rfl
  | searchUrl term options => exact session.conforms_of_noRequests rfl rfl
  | buildAdd id fields => exact session.conforms_of_noRequests rfl rfl
  | buildDelete id => exact session.conforms_of_noRequests rfl rfl
  | search term options => exact session.conforms_search transport now term options
  | add id fields =>
    exact session.conforms_documentCall transport rfl
      (session.client.addDocument_course id fields now)
  | update id fields =>
    exact session.conforms_documentCall transport rfl
      (session.client.addDocument_course id fields now)
  | remove id =>
    exact session.conforms_documentCall transport rfl
      (session.client.removeDocument_course id now)
  | index thing =>
    have hcourse : Call.Course session.client.config none
        (Client.IsBatchRequest session.client.config
          (Step.builtBatch session.client.config now (.index thing)))
        (session.client.index thing now) := by
      rw [Step.builtBatch, Client.index]
      cases thing.isWanted with
      | true => exact session.client.addDocument_course thing.id thing.fields now
      | false => exact session.client.removeDocument_course thing.id now
    exact session.conforms_documentCall transport rfl hcourse
  | unindex thing =>
    exact session.conforms_documentCall transport rfl
      (session.client.removeDocument_course thing.id now)

end Session

/-! ## A transport that keeps what it is sent -/

/-- The transport, with the requests it is sent kept in order. -/
def Transport.recorded {σ : Type} (transport : Transport σ) : Transport (σ × List Request) where
  send request state :=
    let (reply, inner) := transport.send request state.1
    (reply, (inner, state.2 ++ [request]))

theorem Call.run_recorded {α σ : Type} (transport : Transport σ) (state : σ)
    (sent : List Request) (call : Call α) :
    call.run transport.recorded (state, sent) =
      ((call.run transport state).1, ((call.run transport state).2, sent ++ call.requests)) := by
  cases call with
  | settled outcome => rw [Call.requests, List.append_nil]; rfl
  | exchange entries request finish => rfl

namespace Session

variable {σ : Type} (transport : Transport σ)

/-- The session over a transport that keeps what it is sent, with some requests kept already. -/
def recorded (session : Session σ) (sent : List Request) : Session (σ × List Request) :=
  ⟨session.client, (session.state, sent)⟩

theorem perform_recorded {α : Type} (session : Session σ) (sent : List Request) (call : Call α)
    (answer : Except ClientError α → StepAnswer) :
    (session.recorded sent).perform transport.recorded call answer =
      ((session.perform transport call answer).1,
        (session.perform transport call answer).2.recorded (sent ++ call.requests)) := by
  rw [perform, recorded, Call.run_recorded]
  rfl

/-- Keeping the requests changes nothing, and what is kept is what the record says. -/
theorem step_recorded (session : Session σ) (sent : List Request) (now : Int64) (step : Step) :
    (session.recorded sent).step transport.recorded now step =
      ((session.step transport now step).1,
        (session.step transport now step).2.recorded
          (sent ++ (session.step transport now step).1.requests)) := by
  -- a step that calls nothing leaves the transport, and what is kept, as they are
  have hquiet : ∀ (client : Client) (state : σ), (⟨client, (state, sent)⟩ : Session _) =
      recorded ⟨client, state⟩ (sent ++ []) := by
    intro client state
    rw [List.append_nil]
    rfl
  cases step with
  | search term options => exact perform_recorded transport session sent _ _
  | add id fields => exact perform_recorded transport session sent _ _
  | update id fields => exact perform_recorded transport session sent _ _
  | remove id => exact perform_recorded transport session sent _ _
  | index thing => exact perform_recorded transport session sent _ _
  | unindex thing => exact perform_recorded transport session sent _ _
  | _ => exact congrArg _ (hquiet _ _)

/-! ## Whole runs -/

/-- The configuration in force after steps. -/
def configAfter (config : Config) (steps : List (Int64 × Step)) : Config :=
  steps.foldl (fun config step => step.2.configure config) config

/-- The requests that reach the transport in a run. -/
def sentBy (session : Session σ) (steps : List (Int64 × Step)) : List Request :=
  ((session.recorded []).run transport.recorded steps).2.state.2

theorem run_cons (session : Session σ) (now : Int64) (first : Step)
    (rest : List (Int64 × Step)) :
    session.run transport ((now, first) :: rest) =
      ((session.step transport now first).1 ::
          ((session.step transport now first).2.run transport rest).1,
        ((session.step transport now first).2.run transport rest).2) :=
  rfl

theorem length_run (session : Session σ) (steps : List (Int64 × Step)) :
    (session.run transport steps).1.length = steps.length := by
  induction steps generalizing session with
  | nil => rfl
  | cons step rest ih =>
    rw [run_cons, List.length_cons, ih, List.length_cons]

theorem config_run (session : Session σ) (steps : List (Int64 × Step)) :
    (session.run transport steps).2.client.config =
      configAfter session.client.config steps := by
  induction steps generalizing session with
  | nil => rfl
  | cons step rest ih =>
    rw [run_cons, ih, config_step]
    rfl

/-- A run that is broken off has the records of the whole run up to there. -/
theorem run_take (session : Session σ) (steps : List (Int64 × Step)) (k : Nat) :
    (session.run transport (steps.take k)).1 = (session.run transport steps).1.take k := by
  induction steps generalizing session k with
  | nil =>
    rw [List.take_nil]
    exact List.take_nil.symm
  | cons step rest ih =>
    cases k with
    | zero => rfl
    | succ k => rw [List.take_succ_cons, run_cons, run_cons, List.take_succ_cons, ih]

theorem run_recorded (session : Session σ) (sent : List Request) (steps : List (Int64 × Step)) :
    (session.recorded sent).run transport.recorded steps =
      ((session.run transport steps).1,
        (session.run transport steps).2.recorded
          (sent ++ (session.run transport steps).1.flatMap StepRecord.requests)) := by
  induction steps generalizing session sent with
  | nil =>
    rw [run, run, List.flatMap_nil, List.append_nil]
  | cons step rest ih =>
    rw [run_cons, step_recorded, ih, run_cons, List.flatMap_cons, List.append_assoc]

theorem sentBy_eq (session : Session σ) (steps : List (Int64 × Step)) :
    session.sentBy transport steps =
      (session.run transport steps).1.flatMap StepRecord.requests := by
  rw [sentBy, run_recorded, recorded, List.nil_append]

/-- Each step of a run conforms under the configuration in force when it is carried out. -/
theorem conforms_of_getElem? (session : Session σ) (steps : List (Int64 × Step)) (k : Nat)
    {now : Int64} {step : Step} {record : StepRecord} (hs : steps[k]? = some (now, step))
    (hr : (session.run transport steps).1[k]? = some record) :
    Step.Conforms (configAfter session.client.config (steps.take k)) now step record := by
  induction steps generalizing session k with
  | nil => exact nomatch hs
  | cons first rest ih =>
    cases k with
    | zero =>
      -- no step has been carried out, so the configuration is the one at the start
      rw [List.getElem?_cons_zero, Option.some.injEq] at hs
      rw [hs, run_cons, List.getElem?_cons_zero, Option.some.injEq] at hr
      rw [← hr]
      exact session.conforms_step transport now step
    | succ k =>
      -- the rest is a run of its own, from the configuration that the first step leaves
      rw [run_cons, List.getElem?_cons_succ] at hr
      rw [List.getElem?_cons_succ] at hs
      have hconforms := ih (session.step transport first.1 first.2).2 k hs hr
      rw [config_step] at hconforms
      exact hconforms

/-- What a whole run keeps to. Every step has a record and conforms under the configuration in
force at its moment, and by every moment the transport has got the requests of the records so
far and nothing else. -/
structure KeepsTo (session : Session σ) (steps : List (Int64 × Step)) : Prop where
  length_records : (session.run transport steps).1.length = steps.length
  config_take : ∀ k : Nat, (session.run transport (steps.take k)).2.client.config =
    configAfter session.client.config (steps.take k)
  conforms : ∀ (k : Nat) (now : Int64) (step : Step) (record : StepRecord),
    steps[k]? = some (now, step) → (session.run transport steps).1[k]? = some record →
      Step.Conforms (configAfter session.client.config (steps.take k)) now step record
  sentBy_take : ∀ k : Nat, session.sentBy transport (steps.take k) =
    ((session.run transport steps).1.take k).flatMap StepRecord.requests

/-- Requests are sent exactly when they should be, and where they should go: every run, from
every configuration and over every transport, keeps to what is expected of it. -/
theorem run_keepsTo (session : Session σ) (steps : List (Int64 × Step)) :
    session.KeepsTo transport steps where
  length_records := session.length_run transport steps
  config_take := fun k => session.config_run transport (steps.take k)
  conforms := fun k _ _ _ hs hr => session.conforms_of_getElem? transport steps k hs hr
  sentBy_take := by
    intro k
    rw [sentBy_eq, run_take]

/-- A domain that comes late and a sandbox that comes after it: one search of three is sent. -/
example :
    ((Session.run Transport.queue ⟨⟨.default⟩, []⟩
      [(0, .search "x" {}), (0, .setDomain " film "), (0, .search "x" {}),
        (0, .setMode .sandbox), (0, .search "x" {})]).1.flatMap StepRecord.requests).map
      Request.url =
    ["http://search-film.us-east-1.cloudsearch.amazonaws.com/2011-02-01/search?q=x&size=10"] := by
  decide

end Session

end SearchDomain
