/-
  SearchDomain.Proofs.Client.Calls

  What a single call comes to, which its configuration decides before any reply:
  in the sandbox it is answered at once, a search with the empty first page,
  without a domain it is refused, and otherwise one request is sent.
-/
import SearchDomain.Client.Basic
import SearchDomain.Proofs.Config.Domain

namespace SearchDomain

/-! ## The page of a sandbox -/

/-- Whether a page is the first of a search that finds nothing: the only page there is, with no hits
on it, no fields and no page before or after it. -/
structure Page.IsEmptyFirst (page : Page) : Prop where
  ids : page.ids = []
  documents? : page.documents? = none
  totalEntries : page.totalEntries = 0
  pageSize : page.pageSize = 10
  currentPage : page.currentPage = 1
  totalPages : page.totalPages = 1
  previousPage : page.previousPage = none
  nextPage : page.nextPage = none
  cursor : page.cursor = none

theorem Page.isEmptyFirst_emptyFirst : emptyFirst.IsEmptyFirst where
  ids := rfl
  documents? := rfl
  totalEntries := rfl
  pageSize := rfl
  currentPage := rfl
  totalPages := by decide
  previousPage := rfl
  nextPage := by decide
  cursor := rfl

/-! ## Courses -/

/-- The courses that a call to the service can take under a configuration, with the answer that
the sandbox gives and what holds of the request. -/
inductive Call.Course {α : Type} (config : Config) (quiet : α) (holds : Request → Prop) :
    Call α → Prop where
  | skipped (entries : List LogEntry) :
      config.mode = .sandbox → Course config quiet holds (.settled ⟨.ok quiet, entries⟩)
  | refused :
      config.mode = .live → config.hasDomain = false →
      Course config quiet holds (.fail (.config (.missing "search_domain")))
  | sent (entries : List LogEntry) (request : Request)
      (finish : Except TransportFailure Reply → Outcome α) :
      config.mode = .live → config.hasDomain = true → holds request →
      Course config quiet holds (.exchange entries request finish)

namespace Call.Course

variable {α : Type} {config : Config} {quiet : α} {holds : Request → Prop} {call : Call α}

/-- One request is sent if the configuration is ready, and none otherwise. -/
theorem length_requests (h : Course config quiet holds call) :
    call.requests.length = if config.isReady then 1 else 0 := by
  cases h with
  | skipped entries hm =>
    rw [Config.isReady_of_sandbox hm]
    rfl
  | refused hm hd =>
    rw [Config.isReady_of_live hm, hd]
    rfl
  | sent entries request finish hm hd hr =>
    rw [Config.isReady_of_live hm, hd]
    rfl

theorem of_mem_requests (h : Course config quiet holds call) {request : Request}
    (hmem : request ∈ call.requests) : holds request := by
  cases h with
  | skipped entries hm => exact absurd hmem List.not_mem_nil
  | refused hm hd => exact absurd hmem List.not_mem_nil
  | sent entries sent finish hm hd hr =>
    rw [List.eq_of_mem_singleton hmem]
    exact hr

variable {σ : Type} (transport : Transport σ) (state : σ)

theorem result_of_sandbox (h : Course config quiet holds call) (hs : config.mode = .sandbox) :
    (call.run transport state).1.result = .ok quiet := by
  cases h with
  | skipped entries hm => rfl
  | refused hm hd => simp [hs] at hm
  | sent entries request finish hm hd hr => simp [hs] at hm

theorem result_of_hasDomain_eq_false (h : Course config quiet holds call)
    (hl : config.mode = .live) (hn : config.hasDomain = false) :
    (call.run transport state).1.result = .error (.config (.missing "search_domain")) := by
  cases h with
  | skipped entries hm => simp [hl] at hm
  | refused hm hd => rfl
  | sent entries request finish hm hd hr => simp [hn] at hd

end Call.Course

/-! ## Calls whose answer is rendered -/

namespace Call

variable {α β σ : Type}

theorem requests_map (f : α → β) (call : Call α) : (call.map f).requests = call.requests := by
  cases call with
  | settled outcome => rfl
  | exchange entries request finish => rfl

theorem result_run_map (f : α → β) (transport : Transport σ) (state : σ) (call : Call α) :
    ((call.map f).run transport state).1.result =
      (call.run transport state).1.result.map f := by
  cases call with
  | settled outcome => rfl
  | exchange entries request finish => rfl

end Call

/-! ## The calls of a client -/

namespace Client

/-- A request that a search may send. -/
def IsSearchRequest (config : Config) (term : String) (options : SearchOptions)
    (request : Request) : Prop :=
  ∃ domain, config.searchDomain = some domain ∧
    request = .get (config.builtSearchUrl (Text.trim domain) term options) ∧
    Client.searchUrl ⟨config⟩ term options =
      .ok (config.builtSearchUrl (Text.trim domain) term options)

/-- A request that a call about documents may send, for a batch if there is one. -/
def IsBatchRequest (config : Config) (batch : Option DocumentBatch) (request : Request) : Prop :=
  ∃ url sent, batch = some sent ∧ request = .post url sent.body DocumentBatch.contentType ∧
    config.batchUrl = .ok url

/-- A search asks for its mode first and for its domain after that. -/
theorem search_course (client : Client) (term : String) (options : SearchOptions) :
    Call.Course client.config Page.emptyFirst (IsSearchRequest client.config term options)
      (client.search term options) := by
  cases hm : client.config.mode with
  | sandbox =>
    rw [search, hm]
    exact .skipped _ hm
  | live =>
    cases hd : client.config.hasDomain with
    | false =>
      rw [search, hm, Config.searchUrl_of_hasDomain_eq_false hd]
      exact .refused hm hd
    | true =>
      obtain ⟨domain, hs, hb⟩ := (Config.hasDomain_eq_true_iff client.config).1 hd
      have hurl := Config.searchUrl_of_searchDomain hs hb term options
      have hshown : client.searchUrl term options =
          .ok (client.config.builtSearchUrl (Text.trim domain) term options) := by
        rw [searchUrl, hurl]
      rw [search, hm, hurl]
      exact .sent _ _ _ hm hd ⟨domain, hs, rfl, hshown⟩

/-- A batch that is there to be submitted comes from a live configuration. -/
theorem submit_course (client : Client) (batch : DocumentBatch)
    (hm : client.config.mode = .live) :
    Call.Course client.config none (IsBatchRequest client.config (some batch))
      ((client.submit batch).map some) := by
  cases hd : client.config.hasDomain with
  | false =>
    rw [submit, Config.batchUrl_of_hasDomain_eq_false hd]
    exact .refused hm hd
  | true =>
    obtain ⟨domain, hs, hb⟩ := (Config.hasDomain_eq_true_iff client.config).1 hd
    have hurl := Config.batchUrl_of_searchDomain hs hb
    rw [submit, hurl]
    exact .sent _ _ _ hm hd ⟨_, batch, rfl, rfl, hurl⟩

theorem addDocument_course (client : Client) (id : String) (fields : DocumentFields)
    (now : Int64) :
    Call.Course client.config none
      (IsBatchRequest client.config (client.buildAdd id fields now).1)
      (client.addDocument id fields now) := by
  cases hm : client.config.mode with
  | sandbox =>
    rw [addDocument, buildAdd, hm]
    exact .skipped _ hm
  | live =>
    rw [addDocument, buildAdd, hm]
    exact client.submit_course _ hm

theorem removeDocument_course (client : Client) (id : String) (now : Int64) :
    Call.Course client.config none (IsBatchRequest client.config (client.buildDelete id now).1)
      (client.removeDocument id now) := by
  cases hm : client.config.mode with
  | sandbox =>
    rw [removeDocument, buildDelete, hm]
    exact .skipped _ hm
  | live =>
    rw [removeDocument, buildDelete, hm]
    exact client.submit_course _ hm

/-! ## Calls that succeed -/

/-- A page is found in a reply of success and nowhere else. -/
theorem exists_reply_of_finishSearch {version : ApiVersion} {options : SearchOptions}
    {url : String} {received : Except TransportFailure Reply} {page : Page}
    (h : (finishSearch version options url received).result = .ok page) :
    ∃ reply, received = .ok reply ∧ reply.isSuccess = true ∧
      Page.ofResponse reply.body (options.pageSizeInForce version)
        (if options.asksForFields then some version.hitFieldsMember else none) = .ok page := by
  cases received with
  | error failure => cases h
  | ok reply =>
    rw [finishSearch] at h
    split at h
    case isFalse => cases h
    case isTrue hsuccess =>
      refine ⟨reply, rfl, hsuccess, ?_⟩
      dsimp only at h
      split at h
      case h_1 found hpage =>
        rw [hpage]
        cases h
        rfl
      case h_2 => cases h
      case h_3 => cases h

/-- A batch is answered by a reply of success and by nothing else. -/
theorem exists_reply_of_finishSubmit {url : String} {received : Except TransportFailure Reply}
    {answer : BatchAnswer} (h : (finishSubmit url received).result = .ok answer) :
    ∃ reply, received = .ok reply ∧ reply.isSuccess = true ∧
      BatchAnswer.decode reply.body = .ok answer := by
  cases received with
  | error failure => cases h
  | ok reply =>
    rw [finishSubmit] at h
    split at h
    case isFalse => cases h
    case isTrue hsuccess =>
      refine ⟨reply, rfl, hsuccess, ?_⟩
      split at h
      case h_1 => cases h
      case h_2 decoded hdecode =>
        rw [hdecode]
        split at h
        case isTrue => exact congrArg _ (Except.ok.inj h)
        case isFalse => exact congrArg _ (Except.ok.inj h)

end Client

end SearchDomain
