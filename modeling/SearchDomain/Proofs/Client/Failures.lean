/-
  SearchDomain.Proofs.Client.Failures

  What a call that reaches the service comes to, for every answer of a transport.
  There are five verdicts: no reply came, the reply reports no success, its body
  has not the form of an answer, it begins where no page can be counted, or it is
  taken. Searches and batches are finished by code of their own; both go by the
  one rule stated here and differ in how they read a body.

  Main statement: under a configuration that reaches the service, a call makes one
  request and its result is the verdict on what the transport answers that request
  with, the only one there is. An error keeps the kind of call, the URL, and what
  lies behind it.
-/
import SearchDomain.Proofs.Client.Requests
import SearchDomain.Proofs.Page.Words

namespace SearchDomain

/-! ## The forms of answers -/

/-- How the body of a reply of success is read. -/
structure ReplyForm (α : Type) where
  /-- What is said of a body that has not the form of an answer. -/
  complains : Json → String → Prop
  /-- Whether a body begins where no page can be counted. -/
  overflows : Json → Prop
  /-- What a body stands for. -/
  standsFor : Json → α → Prop

namespace ReplyForm

/-- The answer to a search: an object with an object of hits. The page is the one that is read
with the page size in force, and with fields if some were asked for. -/
def page (version : ApiVersion) (options : SearchOptions) : ReplyForm Page where
  complains body message := ¬body.HasHits ∧ message = "response has no hits object"
  overflows body := (options.pageSizeInForce version).toNat = 1 ∧
    Page.countIn "start" body = some 0xFFFFFFFFFFFFFFFF
  standsFor body page := Page.ofResponse body (options.pageSizeInForce version)
    (if options.asksForFields then some version.hitFieldsMember else none) = .ok page

/-- The answer to a batch: whatever is decoded as one, of success or not. -/
def batch : ReplyForm (Option BatchAnswer) where
  complains body message := ∃ error, BatchAnswer.decode body = .error error ∧
    message = error.message
  overflows _ := False
  standsFor body answer := ∃ decoded, BatchAnswer.decode body = .ok decoded ∧
    answer = some decoded

/-- Whether a reader of bodies goes by a form, which then decides on every body. -/
structure IsReadBy {α : Type} (form : ReplyForm α) (read : Json → Except ServiceFault α) :
    Prop where
  complains : ∀ body message,
    read body = .error (.malformed message) ↔ form.complains body message
  overflows : ∀ body, read body = .error .pageOverflow ↔ form.overflows body
  standsFor : ∀ body a, read body = .ok a ↔ form.standsFor body a
  decides : ∀ body, (∃ message, form.complains body message) ∨ form.overflows body ∨
    ∃ a, form.standsFor body a

end ReplyForm

/-! ## Reading bodies -/

namespace Client

/-- A page, or what is wrong with the body. -/
def readPage (version : ApiVersion) (options : SearchOptions) (body : Json) :
    Except ServiceFault Page :=
  match Page.ofResponse body (options.pageSizeInForce version)
    (if options.asksForFields then some version.hitFieldsMember else none) with
  | .ok page => .ok page
  | .error .noHits => .error (.malformed PageError.noHits.message)
  | .error .pageOverflow => .error .pageOverflow

/-- The answer to a batch, or what is wrong with the body. -/
def readAnswer (body : Json) : Except ServiceFault (Option BatchAnswer) :=
  match BatchAnswer.decode body with
  | .ok answer => .ok (some answer)
  | .error error => .error (.malformed error.message)

theorem page_isReadBy_readPage (version : ApiVersion) (options : SearchOptions) :
    (ReplyForm.page version options).IsReadBy (readPage version options) := by
  have hpos := SearchOptions.pageSizeInForce_pos version options
  have hone : (options.pageSizeInForce version).toNat ≤ 1 ↔
      (options.pageSizeInForce version).toNat = 1 := by omega
  have hcases := fun body => Page.ofResponse_trichotomy body (options.pageSizeInForce version)
    (if options.asksForFields then some version.hitFieldsMember else none)
  rw [hone] at hcases
  -- without hits an answer begins nowhere, so the complaints exclude each other
  have hstart : ∀ {body : Json}, ¬body.HasHits → Page.countIn "start" body = none := by
    intro body hnot
    rw [Json.hasHits_iff, ← Option.isSome_iff_exists, Option.not_isSome_iff_eq_none] at hnot
    exact Page.countIn_of_noHits hnot "start"
  constructor
  case complains =>
    intro body message
    simp only [readPage, ReplyForm.page]
    rcases hcases body with ⟨hnot, hresult⟩ | ⟨hhits, -, hresult⟩ | ⟨hhits, -, page, hresult⟩
    · rw [hresult]
      simp [hnot, PageError.message, eq_comm]
    · rw [hresult]
      simp [hhits]
    · rw [hresult]
      simp [hhits]
  case overflows =>
    intro body
    simp only [readPage, ReplyForm.page]
    rcases hcases body with ⟨hnot, hresult⟩ | ⟨-, hlast, hresult⟩ | ⟨-, hlast, page, hresult⟩
    · rw [hresult, hstart hnot]
      simp
    · rw [hresult]
      exact ⟨fun _ => hlast, fun _ => rfl⟩
    · rw [hresult]
      exact ⟨nofun, fun h => absurd h hlast⟩
  case standsFor =>
    intro body page
    simp only [readPage, ReplyForm.page]
    rcases hcases body with ⟨-, hresult⟩ | ⟨-, -, hresult⟩ | ⟨-, -, found, hresult⟩
    · rw [hresult]
      simp
    · rw [hresult]
      simp
    · rw [hresult]
      simp
  case decides =>
    intro body
    rcases hcases body with ⟨hnot, -⟩ | ⟨-, hlast, -⟩ | ⟨-, -, page, hresult⟩
    · exact .inl ⟨_, hnot, rfl⟩
    · exact .inr (.inl hlast)
    · exact .inr (.inr ⟨page, hresult⟩)

theorem batch_isReadBy_readAnswer : ReplyForm.batch.IsReadBy readAnswer := by
  constructor
  case complains =>
    intro body message
    simp only [readAnswer, ReplyForm.batch]
    cases BatchAnswer.decode body with
    | ok answer => simp
    | error error => simp [eq_comm]
  case overflows =>
    intro body
    simp only [readAnswer, ReplyForm.batch]
    cases BatchAnswer.decode body with
    | ok answer => simp
    | error error => simp
  case standsFor =>
    intro body found
    simp only [readAnswer, ReplyForm.batch]
    cases BatchAnswer.decode body with
    | ok answer => simp [eq_comm]
    | error error => simp
  case decides =>
    intro body
    cases hdecode : BatchAnswer.decode body with
    | ok answer => exact .inr (.inr ⟨some answer, answer, hdecode, rfl⟩)
    | error error => exact .inl ⟨error.message, error, hdecode, rfl⟩

end Client

/-! ## Verdicts -/

/-- What a call about `kind` that requested a URL comes to, by what the transport answered. -/
inductive Verdict {α : Type} (kind : Service) (url : String) (form : ReplyForm α) :
    Except TransportFailure Reply → Except ClientError α → Prop where
  /-- No reply came. -/
  | transport (failure : TransportFailure) :
      Verdict kind url form (.error failure) (.error (.service kind url (.transport failure)))
  /-- The reply reports no success; its body is not looked at. -/
  | status (reply : Reply) :
      ¬(200 ≤ reply.status ∧ reply.status < 300) →
      Verdict kind url form (.ok reply) (.error (.service kind url (.status reply.status)))
  | malformed (reply : Reply) (message : String) :
      200 ≤ reply.status ∧ reply.status < 300 → form.complains reply.body message →
      Verdict kind url form (.ok reply) (.error (.service kind url (.malformed message)))
  | overflow (reply : Reply) :
      200 ≤ reply.status ∧ reply.status < 300 → form.overflows reply.body →
      Verdict kind url form (.ok reply) (.error (.service kind url .pageOverflow))
  | taken (reply : Reply) (a : α) :
      200 ≤ reply.status ∧ reply.status < 300 → form.standsFor reply.body a →
      Verdict kind url form (.ok reply) (.ok a)

/-- What an error tells of a call about `kind` that requested a URL. -/
structure ClientError.Evidence (kind : Service) (url : String)
    (received : Except TransportFailure Reply) (error : ClientError) : Prop where
  /-- The error names the kind of call and the URL. -/
  names : ∃ fault, error = .service kind url fault
  /-- Where no reply came, the error says why, and leads to the failure and its cause. -/
  transport : ∀ failure, received = .error failure →
    error.message = requestName kind ++ url ++ " failed: " ++ failure.fault.text ++ ": " ++
        failure.message ∧
      error.sources = failure.text :: failure.cause.toList
  /-- A status is told of exactly where the reply's status reports no success. -/
  status : ∀ code, error.status? = some code ↔ error = .service kind url (.status code)
  /-- Nothing is missing from the configuration. -/
  lacksSetting : error.lacksSetting = false

namespace Reply

theorem isSuccess_iff (reply : Reply) :
    reply.isSuccess = true ↔ 200 ≤ reply.status ∧ reply.status < 300 := by
  rw [isSuccess, Status.isSuccess, Bool.and_eq_true, decide_eq_true_eq, decide_eq_true_eq]

end Reply

namespace Client

variable {α : Type} {kind : Service} {url : String} {form : ReplyForm α}

/-- The result of a call by the rule for all calls: failures and statuses come first, and the body
of a reply of success is read. -/
def settle (kind : Service) (url : String) (read : Json → Except ServiceFault α) :
    Except TransportFailure Reply → Except ClientError α
  | .error failure => .error (.service kind url (.transport failure))
  | .ok reply =>
    if reply.isSuccess then (read reply.body).mapError (.service kind url)
    else .error (.service kind url (.status reply.status))

/-- The rule gives the verdict on what was received, and there is no other. -/
theorem settle_eq_iff {read : Json → Except ServiceFault α} (hread : form.IsReadBy read)
    (received : Except TransportFailure Reply) (result : Except ClientError α) :
    settle kind url read received = result ↔ Verdict kind url form received result := by
  constructor
  · -- the form decides on every body, so some verdict is always reached
    rintro rfl
    cases received with
    | error failure => exact .transport failure
    | ok reply =>
      rw [settle]
      split
      case isFalse hsuccess =>
        rw [Reply.isSuccess_iff] at hsuccess
        exact .status reply hsuccess
      case isTrue hsuccess =>
        rw [Reply.isSuccess_iff] at hsuccess
        rcases hread.decides reply.body with ⟨message, hform⟩ | hform | ⟨a, hform⟩
        · rw [(hread.complains _ _).2 hform]
          exact .malformed reply message hsuccess hform
        · rw [(hread.overflows _).2 hform]
          exact .overflow reply hsuccess hform
        · rw [(hread.standsFor _ _).2 hform]
          exact .taken reply a hsuccess hform
  · -- and each verdict is what the rule gives in its one case
    intro hverdict
    cases hverdict with
    | transport failure => rfl
    | status reply hstatus => rw [settle, if_neg (mt reply.isSuccess_iff.1 hstatus)]
    | malformed reply message hstatus hform =>
      rw [settle, if_pos (reply.isSuccess_iff.2 hstatus), (hread.complains _ _).2 hform]
      rfl
    | overflow reply hstatus hform =>
      rw [settle, if_pos (reply.isSuccess_iff.2 hstatus), (hread.overflows _).2 hform]
      rfl
    | taken reply a hstatus hform =>
      rw [settle, if_pos (reply.isSuccess_iff.2 hstatus), (hread.standsFor _ _).2 hform]
      rfl

/-- Every error that a verdict gives keeps what is known of the call. -/
theorem evidence_of_verdict {received : Except TransportFailure Reply} {error : ClientError}
    (h : Verdict kind url form received (.error error)) :
    error.Evidence kind url received := by
  cases h with
  | transport failure =>
    refine ⟨⟨_, rfl⟩, ?_, by simp [ClientError.status?], rfl⟩
    intro other hother
    rw [Except.error.injEq] at hother
    subst hother
    refine ⟨?_, rfl⟩
    simp [ClientError.message, TransportFailure.text, String.append_assoc]
  | status reply hstatus =>
    exact ⟨⟨_, rfl⟩, nofun, by simp [ClientError.status?, eq_comm], rfl⟩
  | malformed reply message hstatus hform =>
    exact ⟨⟨_, rfl⟩, nofun, by simp [ClientError.status?], rfl⟩
  | overflow reply hstatus hform =>
    exact ⟨⟨_, rfl⟩, nofun, by simp [ClientError.status?], rfl⟩

/-! ## The two ways of finishing -/

theorem result_finishSearch (version : ApiVersion) (options : SearchOptions) (url : String)
    (received : Except TransportFailure Reply) :
    (finishSearch version options url received).result =
      settle .search url (readPage version options) received := by
  cases received with
  | error failure => rfl
  | ok reply =>
    rw [finishSearch, settle]
    split
    case isFalse => rfl
    case isTrue =>
      dsimp only
      -- the body was read on the way, with what it complains of put into the error at once
      rw [readPage]
      cases Page.ofResponse reply.body (options.pageSizeInForce version)
          (if options.asksForFields then some version.hitFieldsMember else none) with
      | ok page => rfl
      | error error => cases error <;> rfl

theorem result_finishSubmit (url : String) (received : Except TransportFailure Reply) :
    (finishSubmit url received).result.map some = settle .document url readAnswer received := by
  cases received with
  | error failure => rfl
  | ok reply =>
    rw [finishSubmit, settle]
    split
    case isFalse => rfl
    case isTrue =>
      rw [readAnswer]
      cases BatchAnswer.decode reply.body with
      | error error => rfl
      | ok answer =>
        -- a batch that failed is answered like any other, and only logged about
        dsimp only
        split <;> rfl

/-! ## Calls that reach the service -/

variable {client : Client}

/-- A search that reaches the service requests its URL. -/
theorem search_of_isReady (hready : client.config.isReady = true) (term : String)
    (options : SearchOptions) :
    ∃ entries url, client.searchUrl term options = .ok url ∧
      client.search term options = .exchange entries (.get url)
        (finishSearch client.config.apiVersion options url) := by
  rw [Config.isReady, Bool.and_eq_true, beq_iff_eq] at hready
  obtain ⟨hlive, hdomain⟩ := hready
  obtain ⟨domain, hs, hb⟩ := (Config.hasDomain_eq_true_iff client.config).1 hdomain
  have hurl := Config.searchUrl_of_searchDomain hs hb term options
  rw [search, searchUrl, hlive, hurl]
  exact ⟨_, _, rfl, rfl⟩

/-- A batch that reaches the service is posted to the URL for batches. -/
theorem submitBuilt_of_isReady (hready : client.config.isReady = true) (batch : DocumentBatch)
    (entries : List LogEntry) :
    ∃ entries' url, client.config.batchUrl = .ok url ∧
      client.submitBuilt (some batch, entries) =
        (Call.exchange entries' (.post url batch.body DocumentBatch.contentType)
          (finishSubmit url)).map some := by
  rw [Config.isReady, Bool.and_eq_true, beq_iff_eq] at hready
  obtain ⟨-, hdomain⟩ := hready
  obtain ⟨domain, hs, hb⟩ := (Config.hasDomain_eq_true_iff client.config).1 hdomain
  have hurl := Config.batchUrl_of_searchDomain hs hb
  rw [submitBuilt, submit, hurl]
  exact ⟨_, _, rfl, rfl⟩

theorem buildAdd_of_isReady (hready : client.config.isReady = true) (id : String)
    (fields : DocumentFields) (now : Int64) :
    client.buildAdd id fields now =
      (some (.single (.adding id fields client.config.apiVersion now)), []) := by
  rw [Config.isReady, Bool.and_eq_true, beq_iff_eq] at hready
  rw [buildAdd, hready.1]

theorem buildDelete_of_isReady (hready : client.config.isReady = true) (id : String)
    (now : Int64) :
    client.buildDelete id now =
      (some (.single (.deleting id client.config.apiVersion now)), []) := by
  rw [Config.isReady, Bool.and_eq_true, beq_iff_eq] at hready
  rw [buildDelete, hready.1]

end Client

namespace Session

variable {σ : Type} (transport : Transport σ) (session : Session σ)

/-- Every call that changes documents submits the batch that is built for it. -/
theorem step_of_isDocumentCall (hready : session.client.config.isReady = true) (now : Int64)
    {step : Step} (hstep : step.isDocumentCall = true) :
    ∃ batch, step.builtBatch session.client.config now = some batch ∧
      session.step transport now step =
        session.perform transport (session.client.submitBuilt (some batch, [])) .submitted := by
  -- every call comes down to a batch that adds one document or deletes one
  have hadd := fun id fields => session.client.buildAdd_of_isReady hready id fields now
  have hdelete := fun id => session.client.buildDelete_of_isReady hready id now
  cases step with
  | add id fields =>
    refine ⟨_, congrArg Prod.fst (hadd id fields), ?_⟩
    rw [Session.step, Client.addDocument, hadd]
  | update id fields =>
    refine ⟨_, congrArg Prod.fst (hadd id fields), ?_⟩
    rw [Session.step, Client.updateDocument, Client.addDocument, hadd]
  | remove id =>
    refine ⟨_, congrArg Prod.fst (hdelete id), ?_⟩
    rw [Session.step, Client.removeDocument, hdelete]
  | index thing =>
    rw [Step.builtBatch, Session.step, Client.index]
    cases thing.isWanted with
    | true =>
      refine ⟨_, congrArg Prod.fst (hadd thing.id thing.fields), ?_⟩
      rw [if_pos rfl, Client.addDocument, hadd]
    | false =>
      refine ⟨_, congrArg Prod.fst (hdelete thing.id), ?_⟩
      rw [if_neg Bool.false_ne_true, Client.removeDocument, hdelete]
  | unindex thing =>
    refine ⟨_, congrArg Prod.fst (hdelete thing.id), ?_⟩
    rw [Session.step, Client.unindex, Client.removeDocument, hdelete]
  | _ => cases hstep

/-- A step that made one request and answers with the verdict on what came back, and no other; an
error is evidence of the request. -/
structure IsJudged {α : Type} (record : StepRecord) (answer : Except ClientError α → StepAnswer)
    (kind : Service) (form : ReplyForm α) (request : Request)
    (received : Except TransportFailure Reply) : Prop where
  requests : record.requests = [request]
  verdict : ∀ result, record.answer = answer result ↔
    Verdict kind request.url form received result
  evidence : ∀ error, record.answer = answer (.error error) →
    error.Evidence kind request.url received

/-- A call that is finished by the rule for all calls is judged. -/
theorem isJudged_perform {α : Type} {answer : Except ClientError α → StepAnswer}
    (hanswer : ∀ a b, answer a = answer b → a = b) {kind : Service} {form : ReplyForm α}
    {read : Json → Except ServiceFault α} (hread : form.IsReadBy read) (entries : List LogEntry)
    (request : Request) {finish : Except TransportFailure Reply → Outcome α}
    (hfinish : ∀ received,
      (finish received).result = Client.settle kind request.url read received) :
    IsJudged (session.perform transport (.exchange entries request finish) answer).1 answer kind
      form request (transport.send request session.state).1 := by
  have hverdict : ∀ result,
      (session.perform transport (.exchange entries request finish) answer).1.answer =
          answer result ↔
        Verdict kind request.url form (transport.send request session.state).1 result := by
    intro result
    rw [← Client.settle_eq_iff hread, ← hfinish]
    exact ⟨fun h => hanswer _ _ h, fun h => congrArg answer h⟩
  exact ⟨rfl, hverdict, fun error h => Client.evidence_of_verdict ((hverdict _).1 h)⟩

/-- Under a configuration that reaches the service, every search and every call that changes
documents makes one request and comes to the verdict on what the transport answers it with. -/
theorem calls_isJudged (hready : session.client.config.isReady = true) (now : Int64) :
    (∀ term options, ∃ url, session.client.searchUrl term options = .ok url ∧
      IsJudged (session.step transport now (.search term options)).1 .page .search
        (.page session.client.config.apiVersion options) (.get url)
        (transport.send (.get url) session.state).1) ∧
    (∀ step : Step, step.isDocumentCall = true → ∃ url batch,
      session.client.config.batchUrl = .ok url ∧
      step.builtBatch session.client.config now = some batch ∧
      IsJudged (session.step transport now step).1 .submitted .document .batch
        (.post url batch.body DocumentBatch.contentType)
        (transport.send (.post url batch.body DocumentBatch.contentType) session.state).1) := by
  constructor
  · intro term options
    obtain ⟨entries, url, hurl, hcall⟩ :=
      session.client.search_of_isReady hready term options
    refine ⟨url, hurl, ?_⟩
    rw [Session.step, hcall]
    refine session.isJudged_perform transport ?_
      (Client.page_isReadBy_readPage session.client.config.apiVersion options) entries
      (.get url) fun received => ?_
    · intro a b h
      exact StepAnswer.page.inj h
    · exact Client.result_finishSearch _ _ url received
  · intro step hstep
    obtain ⟨batch, hbatch, hperform⟩ := session.step_of_isDocumentCall transport hready now hstep
    obtain ⟨entries, url, hurl, hcall⟩ :=
      session.client.submitBuilt_of_isReady hready batch []
    refine ⟨url, batch, hurl, hbatch, ?_⟩
    rw [hperform, hcall]
    refine session.isJudged_perform transport ?_ Client.batch_isReadBy_readAnswer entries
      (.post url batch.body DocumentBatch.contentType) fun received => ?_
    · intro a b h
      exact StepAnswer.submitted.inj h
    · exact Client.result_finishSubmit url received

/-- A client with a domain, and replies that are prepared for it. -/
def prepared (replies : List (Except TransportFailure Reply)) :
    Session (List (Except TransportFailure Reply)) :=
  ⟨⟨{ Config.default with searchDomain := some "movies" }⟩, replies⟩

/-- A batch that the service reports as failed is taken like any other. -/
theorem calls_isJudged_of_failedBatch :
    (prepared [.ok ⟨200, .object [("status", .string "error")]⟩]).client.config.isReady = true ∧
      (Step.remove "4").isDocumentCall = true ∧
      ((prepared [.ok ⟨200, .object [("status", .string "error")]⟩]).step Transport.queue 0
        (.remove "4")).1.answer = .submitted (.ok (some { status := "error" })) := by
  have hready : (prepared
      [.ok ⟨200, .object [("status", .string "error")]⟩]).client.config.isReady = true := by
    decide
  have hstep : (Step.remove "4").isDocumentCall = true := rfl
  obtain ⟨url, batch, -, -, hjudged⟩ :=
    (calls_isJudged Transport.queue (prepared _) hready 0).2 (.remove "4") hstep
  refine ⟨hready, hstep, (hjudged.verdict _).2 (.taken _ _ (by decide) ⟨_, rfl, rfl⟩)⟩

/-- A search whose answer has hits, and is none the less not taken: the page number behind the
last start does not fit. -/
theorem search_overflows_at_last :
    (Page.answer (.whole 0) (.whole 0xFFFFFFFFFFFFFFFF)).HasHits ∧
      ∃ url, ((prepared [.ok ⟨200, Page.answer (.whole 0) (.whole 0xFFFFFFFFFFFFFFFF)⟩]).step
        Transport.queue 0 (.search "x" { pageSize := some 1 })).1.answer =
          .page (.error (.service .search url .pageOverflow)) :=
  ⟨⟨_, _, rfl, rfl⟩, _, rfl⟩

end Session

end SearchDomain
