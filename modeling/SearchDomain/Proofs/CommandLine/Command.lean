/-
  SearchDomain.Proofs.CommandLine.Command

  What a single command sends and prints. Its input is looked at first, and bad
  input ends it there; what is left is a URL to print or one call. A command that
  fails prints nothing, and one that succeeds prints one text, which is a URL, or
  the JSON of a page or of the answer to a batch. What is asked for and what is
  printed are stated here apart from the functions that read options and write
  JSON.
-/
import SearchDomain.Proofs.Client.Requests
import SearchDomain.Proofs.CommandLine.Output
import SearchDomain.Proofs.Document.Answer
import SearchDomain.Proofs.Json.Layout

namespace SearchDomain

namespace CommandLine

/-! ## Input -/

/-- Whether a filter is given that is not JSON, or is JSON but no filter. -/
def IsBadFilter (filter : Option String) : Prop :=
  ∃ text, filter = some text ∧
    ∀ json, Json.read text = some json → ∃ e, Filter.ofJson json = .error e

/-- Whether fields are not those of a JSON object. -/
def IsBadFields (text : String) : Prop :=
  ∀ members, Json.read text ≠ some (.object members)

/-- Whether a text is JSON that is read as a filter. -/
def SpellsFilter (text : String) (filter : Filter) : Prop :=
  ∃ json, Json.read text = some json ∧ Filter.ofJson json = .ok filter

theorem readFilter_eq_ok_iff {text : String} {filter : Filter} :
    readFilter text = .ok filter ↔ SpellsFilter text filter := by
  rw [readFilter, SpellsFilter]
  cases Json.read text with
  | none => simp
  | some json =>
    cases hof : Filter.ofJson json with
    | error e => simp [hof]
    | ok read => simp [hof]

theorem readFilter?_eq_ok_iff {text : Option String} {filter : Option Filter} :
    readFilter? text = .ok filter ↔ Option.Rel SpellsFilter text filter := by
  cases text with
  | none =>
    constructor
    · intro h
      cases h
      exact .none
    · rintro ⟨⟩
      rfl
  | some text =>
    constructor
    · intro h
      cases hread : readFilter text with
      | error e =>
        rw [readFilter?, hread] at h
        cases h
      | ok read =>
        rw [readFilter?, hread] at h
        cases h
        exact .some (readFilter_eq_ok_iff.1 hread)
    · rintro ⟨hspells⟩
      rw [readFilter?, readFilter_eq_ok_iff.2 hspells]
      rfl

theorem readFilter?_cases (filter : Option String) :
    (IsBadFilter filter ∧ ∃ error, readFilter? filter = .error error) ∨
    (¬IsBadFilter filter ∧ ∃ read, readFilter? filter = .ok read) := by
  cases filter with
  | none => exact .inr ⟨nofun, none, rfl⟩
  | some text =>
    rw [readFilter?]
    cases hread : readFilter text with
    | error error =>
      refine .inl ⟨⟨text, rfl, fun json hjson => ?_⟩, error, rfl⟩
      cases hof : Filter.ofJson json with
      | error e => exact ⟨e, rfl⟩
      | ok read =>
        rw [readFilter_eq_ok_iff.2 ⟨json, hjson, hof⟩] at hread
        cases hread
    | ok read =>
      refine .inr ⟨?_, some read, rfl⟩
      obtain ⟨json, hjson, hof⟩ := readFilter_eq_ok_iff.1 hread
      rintro ⟨other, hother, hbad⟩
      cases hother
      obtain ⟨e, herror⟩ := hbad json hjson
      rw [hof] at herror
      cases herror

theorem readFields_cases (text : String) :
    (IsBadFields text ∧ ∃ error, readFields text = .error error) ∨
    (¬IsBadFields text ∧ ∃ fields, readFields text = .ok fields) := by
  rw [readFields, IsBadFields]
  cases hread : Json.read text with
  | none => exact .inl ⟨nofun, _, rfl⟩
  | some json =>
    cases json with
    | object members => exact .inr ⟨fun hbad => hbad members rfl, _, rfl⟩
    | _ => exact .inl ⟨nofun, _, rfl⟩

/-! ## Options -/

/-- The order that a text spells, trimmed: descending behind a minus sign, and ascending without
one. -/
inductive SpellsRank (text : String) : Rank → Prop
  | descending {field : String} : Text.trim text = "-" ++ field →
      SpellsRank text ⟨field, .descending⟩
  | ascending : (∀ field, Text.trim text ≠ "-" ++ field) →
      SpellsRank text ⟨Text.trim text, .ascending⟩

/-- The names that are kept of those that are given: blank ones are passed over, and the others
trimmed. -/
inductive KeepsNames : List String → List String → Prop
  | nil : KeepsNames [] []
  | blank {name : String} {names kept : List String} :
      Text.isBlankText name = true → KeepsNames names kept → KeepsNames (name :: names) kept
  | named {name : String} {names kept : List String} :
      Text.isBlankText name = false → KeepsNames names kept →
      KeepsNames (name :: names) (Text.trim name :: kept)

theorem spellsRank_iff {text : String} {rank : Rank} :
    SpellsRank text rank ↔ Rank.ofText text = rank := by
  have hminus : ∀ {s field : String}, s = "-" ++ field ↔ s.toList = '-' :: field.toList := by
    intro s field
    rw [← String.toList_inj, String.toList_append]
    exact Iff.rfl
  rw [Rank.ofText]
  constructor
  · rintro (hfield | hnone)
    · rw [hminus.1 hfield]
      simp
    · split
      next cs hcs =>
        refine absurd (hminus.2 ?_) (hnone (String.ofList cs))
        rw [hcs, String.toList_ofList]
      next => rw [String.ofList_toList]
  · rintro rfl
    split
    next cs hcs =>
      apply SpellsRank.descending
      rw [hminus, hcs, String.toList_ofList]
    next hnone =>
      rw [String.ofList_toList]
      apply SpellsRank.ascending
      intro field hfield
      exact hnone field.toList (hminus.1 hfield)

theorem spellsRank_map_iff {text : Option String} {rank : Option Rank} :
    Option.Rel SpellsRank text rank ↔ text.map Rank.ofText = rank := by
  constructor
  · rintro (h | _)
    · rw [Option.map_some, spellsRank_iff.1 h]
    · rfl
  · rintro rfl
    cases text with
    | none => exact .none
    | some text => exact .some (spellsRank_iff.2 rfl)

theorem keepsNames_iff {names kept : List String} :
    KeepsNames names kept ↔ fieldNames names = kept := by
  have hcons : ∀ (name : String) (names : List String), fieldNames (name :: names) =
      if Text.isBlankText name = true then fieldNames names
      else Text.trim name :: fieldNames names := by
    intro name names
    rw [fieldNames, List.map_cons, List.filter_cons]
    by_cases hblank : Text.isBlankText name = true
    · simp [hblank, (Text.trim_eq_empty_iff name).2 hblank, fieldNames]
    · have hne : Text.trim name ≠ "" := fun h => hblank ((Text.trim_eq_empty_iff name).1 h)
      simp [hblank, hne, fieldNames]
  constructor
  · intro h
    induction h with
    | nil => rfl
    | blank hblank _ ih => rw [hcons, if_pos hblank, ih]
    | named hnot _ ih => rw [hcons, if_neg (Bool.eq_false_iff.1 hnot), ih]
  · rintro rfl
    induction names with
    | nil => exact .nil
    | cons name names ih =>
      rw [hcons]
      by_cases hblank : Text.isBlankText name = true
      · rw [if_pos hblank]
        exact .blank hblank ih
      · rw [if_neg hblank]
        exact .named (Bool.eq_false_iff.2 hblank) ih

/-! ## What is asked for -/

namespace Command

/-- Whether a command is to change documents. -/
def changesDocuments : Command → Bool
  | search .. => false
  | add _ _ | update _ _ | remove _ => true

/-- Whether only the URL of a search is wanted. -/
def isUrlOnly : Command → Bool
  | search _ _ _ _ _ _ _ urlOnly => urlOnly
  | _ => false

/-- Whether a command comes with a filter or with fields that cannot be used. -/
def HasBadInput : Command → Prop
  | search _ filter _ _ _ _ _ _ => IsBadFilter filter
  | add _ fields | update _ fields => IsBadFields fields
  | remove _ => False

/-- The search that a command asks for, with its filter and its order read and its names kept. -/
inductive Asks : Command → String → SearchOptions → Prop where
  | search {term : String} {filter : Option String} {read : Option Filter}
      {page pageSize : Option UInt32} {returnFields kept : List String}
      {rank cursor : Option String} {order : Option Rank} {urlOnly : Bool} :
    Option.Rel SpellsFilter filter read → KeepsNames returnFields kept →
    Option.Rel SpellsRank rank order →
    Asks (.search term filter page pageSize returnFields rank cursor urlOnly) term
      { filter := read, pageSize := pageSize, page := page, returnFields := kept,
        rank := order, cursor := cursor }

end Command

theorem Command.Asks.not_hasBadInput {command : Command} {term : String}
    {options : SearchOptions} (h : command.Asks term options) : ¬command.HasBadInput := by
  obtain ⟨hfilter, -, -⟩ := h
  rcases readFilter?_cases _ with ⟨-, error, herror⟩ | ⟨hgood, -⟩
  · rw [readFilter?_eq_ok_iff.2 hfilter] at herror
    cases herror
  · exact hgood

/-- A search whose filter is read asks for what its options are read as. -/
theorem Command.asks_of_readFilter? {term : String} {filter : Option String}
    {read : Option Filter} {page pageSize : Option UInt32} {returnFields : List String}
    {rank cursor : Option String} {urlOnly : Bool} (h : readFilter? filter = .ok read) :
    Command.Asks (.search term filter page pageSize returnFields rank cursor urlOnly) term
      { filter := read, pageSize := pageSize, page := page,
        returnFields := fieldNames returnFields, rank := rank.map Rank.ofText,
        cursor := cursor } :=
  .search (readFilter?_eq_ok_iff.1 h) (keepsNames_iff.2 rfl) (spellsRank_map_iff.2 rfl)

/-! ## What a command does -/

/-- What a command can come to for a client: bad input fails at once, a URL is shown or cannot be
made, and everything else is a call. -/
inductive Takes (client : Client) (command : Command) : Action → Prop where
  | refused {error : CommandError} : command.HasBadInput → Takes client command (.fail error)
  | shown {term : String} {options : SearchOptions} {url : String} :
      command.Asks term options → command.isUrlOnly = true →
      client.searchUrl term options = .ok url → Takes client command (.print (url ++ "\n"))
  | hasNoUrl {term : String} {options : SearchOptions} {error : ClientError} :
      command.Asks term options → command.isUrlOnly = true →
      client.searchUrl term options = .error error →
      Takes client command (.fail (.client error))
  | searches {term : String} {options : SearchOptions} :
      command.Asks term options → command.isUrlOnly = false →
      Takes client command
        (.request ((client.search term options).map fun page => (pageToJson page).pretty ++ "\n"))
  | changes {built : Option DocumentBatch × List LogEntry} {holds : Request → Prop} :
      command.changesDocuments = true → ¬command.HasBadInput →
      (built.1 = none ↔ client.config.mode = .sandbox) →
      Call.Course client.config none holds (client.submitBuilt built) →
      Takes client command (.request ((client.submitBuilt built).map printAnswer))

/-- A batch is built in live mode and only then, so a missing one stands for the sandbox. -/
theorem takes_addDocument {client : Client} {command : Command} {id : String}
    {fields : DocumentFields} {now : Int64} (hchanges : command.changesDocuments = true)
    (hinput : ¬command.HasBadInput) :
    Takes client command (.request ((client.addDocument id fields now).map printAnswer)) := by
  refine .changes hchanges hinput ?_ (client.addDocument_course id fields now)
  rw [Client.buildAdd]
  cases client.config.mode <;> simp

theorem takes_removeDocument {client : Client} {command : Command} {id : String} {now : Int64}
    (hchanges : command.changesDocuments = true) (hinput : ¬command.HasBadInput) :
    Takes client command (.request ((client.removeDocument id now).map printAnswer)) := by
  refine .changes hchanges hinput ?_ (client.removeDocument_course id now)
  rw [Client.buildDelete]
  cases client.config.mode <;> simp

/-- Input is looked at before anything else is done. -/
theorem takes_action (client : Client) (now : Int64) (command : Command) :
    Takes client command (command.action client now) := by
  cases command with
  | search term filter page pageSize returnFields rank cursor urlOnly =>
    rw [Command.action]
    rcases readFilter?_cases filter with ⟨hbad, error, hread⟩ | ⟨-, read, hread⟩
    · rw [hread]
      exact .refused hbad
    · rw [hread]
      cases urlOnly with
      | false => exact .searches (Command.asks_of_readFilter? hread) rfl
      | true =>
        dsimp only
        rw [if_pos rfl]
        split
        case h_1 url hurl => exact .shown (Command.asks_of_readFilter? hread) rfl hurl
        case h_2 e hurl => exact .hasNoUrl (Command.asks_of_readFilter? hread) rfl hurl
  | add id text | update id text =>
    rw [Command.action]
    rcases readFields_cases text with ⟨hbad, error, hread⟩ | ⟨hgood, fields, hread⟩
    · rw [hread]
      exact .refused hbad
    · rw [hread]
      exact takes_addDocument rfl hgood
  | remove documentId => exact takes_removeDocument rfl id

/-! ## What is printed -/

variable {σ : Type}

/-- The requests of a command that succeeds, and the text it prints: the URL of the search, or on
lines of JSON the page that was found or the answer to the batch, and nothing for documents in the
sandbox. The JSON is read back as the value that shows the page or the answer; fields of documents
are those of the reply, and are read back if the reply is within reach of the reader. -/
inductive Prints (transport : Transport σ) (state : σ) (client : Client) (command : Command) :
    List Request → String → Prop where
  | url {term : String} {options : SearchOptions} {url : String} :
      command.Asks term options → command.isUrlOnly = true →
      client.searchUrl term options = .ok url →
      Prints transport state client command [] (url ++ "\n")
  | nothingFound {term lines : String} {options : SearchOptions} {page : Page} {json : Json} :
      command.Asks term options → command.isUrlOnly = false → client.config.mode = .sandbox →
      page.IsEmptyFirst → ShowsPage page json → json.IsTextOf lines →
      Json.read lines = some json →
      Prints transport state client command [] (lines ++ "\n")
  | page {term url lines : String} {options : SearchOptions} {reply : Reply} {page : Page}
      {json : Json} :
      command.Asks term options → command.isUrlOnly = false → client.config.mode = .live →
      client.searchUrl term options = .ok url →
      (transport.send (.get url) state).1 = .ok reply → reply.isSuccess = true →
      Page.ofResponse reply.body (options.pageSizeInForce client.config.apiVersion)
        (if options.asksForFields then some client.config.apiVersion.hitFieldsMember else none) =
          .ok page →
      ShowsPage page json → json.IsTextOf lines →
      ((options.asksForFields = true → reply.body.IsWithin Json.Reader.maxDepth) →
        Json.read lines = some json) →
      Prints transport state client command [.get url] (lines ++ "\n")
  | answer {lines : String} {request : Request} {reply : Reply} {answer : BatchAnswer}
      {json : Json} :
      command.changesDocuments = true → ¬command.HasBadInput → client.config.mode = .live →
      (transport.send request state).1 = .ok reply → reply.isSuccess = true →
      answer.IsToldBy reply.body → ShowsAnswer answer json → json.IsTextOf lines →
      Json.read lines = some json →
      Prints transport state client command [request] (lines ++ "\n")
  | nothing :
      command.changesDocuments = true → ¬command.HasBadInput → client.config.mode = .sandbox →
      Prints transport state client command [] ""

variable {transport : Transport σ} {state : σ} {client : Client} {command : Command}

theorem Prints.eq_empty_iff {requests : List Request} {text : String}
    (h : Prints transport state client command requests text) :
    text = "" ↔ client.config.mode = .sandbox ∧ command.changesDocuments = true := by
  have hline : ∀ line : String, line ++ "\n" ≠ "" := by
    intro line hempty
    have hlength := congrArg String.length hempty
    rw [String.length_append] at hlength
    exact absurd hlength (Nat.succ_ne_zero _)
  -- a command that asks for a search is none that changes documents
  have hsearch : ∀ {term : String} {options : SearchOptions}, command.Asks term options →
      command.changesDocuments ≠ true := by
    rintro _ _ ⟨-, -, -⟩
    exact Bool.false_ne_true
  cases h with
  | url hasks => exact ⟨fun h => absurd h (hline _), fun h => absurd h.2 (hsearch hasks)⟩
  | nothingFound hasks => exact ⟨fun h => absurd h (hline _), fun h => absurd h.2 (hsearch hasks)⟩
  | page hasks => exact ⟨fun h => absurd h (hline _), fun h => absurd h.2 (hsearch hasks)⟩
  | answer _ _ hl =>
    rw [hl]
    exact ⟨fun h => absurd h (hline _), fun h => nomatch h.1⟩
  | nothing hchanges _ hs => exact ⟨fun _ => ⟨hs, hchanges⟩, fun _ => rfl⟩

/-! ## Carrying a command out -/

/-- A search that succeeds found nothing in the sandbox, or what the reply holds. -/
theorem prints_search {term : String} {options : SearchOptions} {page : Page}
    (hasks : command.Asks term options) (hnot : command.isUrlOnly = false)
    (h : ((client.search term options).run transport state).1.result = .ok page) :
    Prints transport state client command (client.search term options).requests
      ((pageToJson page).pretty ++ "\n") := by
  rw [Client.search] at h ⊢
  cases hm : client.config.mode with
  | sandbox =>
    simp only [hm] at h ⊢
    cases h
    have htext := Json.isTextOf_pretty (pageToJson Page.emptyFirst)
    have hread : Json.read (pageToJson Page.emptyFirst).pretty =
        some (pageToJson Page.emptyFirst) := htext.read ⟨by decide, by decide⟩
    exact .nothingFound hasks hnot hm Page.isEmptyFirst_emptyFirst (showsPage_pageToJson _) htext
      hread
  | live =>
    simp only [hm] at h ⊢
    cases hurl : client.config.searchUrl term options with
    | error e =>
      rw [hurl] at h
      cases h
    | ok url =>
      rw [hurl] at h
      obtain ⟨reply, hsend, hsuccess, hpage⟩ := Client.exists_reply_of_finishSearch h
      have hshown : client.searchUrl term options = .ok url := by rw [Client.searchUrl, hurl]
      have htext := Json.isTextOf_pretty (pageToJson page)
      refine .page hasks hnot hm hshown hsend hsuccess hpage (showsPage_pageToJson page) htext ?_
      intro hbody
      refine htext.read (Page.isWithin_pageToJson hpage fun hkey => hbody ?_)
      by_contra hnone
      exact hkey (if_neg hnone)

/-- A batch that is submitted with success is answered by the reply. -/
theorem prints_submitBuilt {built : Option DocumentBatch × List LogEntry}
    {answer : Option BatchAnswer} (hchanges : command.changesDocuments = true)
    (hinput : ¬command.HasBadInput) (hbuilt : built.1 = none ↔ client.config.mode = .sandbox)
    (h : ((client.submitBuilt built).run transport state).1.result = .ok answer) :
    Prints transport state client command (client.submitBuilt built).requests
      (printAnswer answer) := by
  obtain ⟨batch, entries⟩ := built
  cases batch with
  | none =>
    -- nothing was built, so nothing is sent and there is no answer to print
    cases h
    exact .nothing hchanges hinput (hbuilt.1 rfl)
  | some batch =>
    have hlive : client.config.mode = .live := by
      cases hm : client.config.mode with
      | live => rfl
      | sandbox => cases hbuilt.2 hm
    rw [Client.submitBuilt, Call.requests_map, Client.submit]
    rw [Client.submitBuilt, Call.result_run_map, Client.submit] at h
    cases hurl : client.config.batchUrl with
    | error e =>
      rw [hurl] at h
      cases h
    | ok url =>
      rw [hurl] at h
      cases hfinish : (Client.finishSubmit url (transport.send
          (.post url batch.body DocumentBatch.contentType) state).1).result with
      | error e =>
        change Except.map some (Client.finishSubmit url _).result = _ at h
        rw [hfinish] at h
        cases h
      | ok received =>
        change Except.map some (Client.finishSubmit url _).result = _ at h
        rw [hfinish] at h
        cases h
        obtain ⟨reply, hsend, hsuccess, hdecode⟩ := Client.exists_reply_of_finishSubmit hfinish
        have htold := BatchAnswer.isToldBy_of_decode hdecode
        have htext := Json.isTextOf_pretty received.toJson
        exact .answer hchanges hinput hlive hsend hsuccess htold (showsAnswer_toJson received) htext
          (htext.read htold.isWithin_toJson)

/-- What is reported of a call: its requests in any case, and its text or its error. -/
theorem run_request (call : Call String) :
    ((Action.request call).run transport state).1 =
      match (call.run transport state).1.result with
      | .ok text => { output := text, requests := call.requests }
      | .error e => { failure := some (.client e), requests := call.requests } := by
  rw [Action.run]
  cases hresult : (call.run transport state).1.result with
  | ok text => simp only [hresult]
  | error e => simp only [hresult]

theorem exists_result_of_run_request {α : Type} {call : Call α} {render : α → String}
    (hdone : ((Action.request (call.map render)).run transport state).1.failure = none) :
    ∃ answer, (call.run transport state).1.result = .ok answer ∧
      ((Action.request (call.map render)).run transport state).1 =
        { output := render answer, requests := call.requests } := by
  rw [run_request, Call.result_run_map, Call.requests_map] at hdone ⊢
  cases hresult : (call.run transport state).1.result with
  | ok answer => exact ⟨answer, rfl, rfl⟩
  | error e =>
    rw [hresult] at hdone
    cases hdone

theorem Takes.prints {action : Action} (h : Takes client command action)
    (hdone : (action.run transport state).1.failure = none) :
    Prints transport state client command (action.run transport state).1.requests
      (action.run transport state).1.output := by
  cases h with
  | refused hbad => cases hdone
  | shown hasks hurlOnly hurl => exact .url hasks hurlOnly hurl
  | hasNoUrl hasks hurlOnly hurl => cases hdone
  | searches hasks hnot =>
    obtain ⟨page, hpage, hreport⟩ := exists_result_of_run_request hdone
    rw [hreport]
    exact prints_search hasks hnot hpage
  | changes hchanges hinput hbuilt hcourse =>
    obtain ⟨answer, hanswer, hreport⟩ := exists_result_of_run_request hdone
    rw [hreport]
    exact prints_submitBuilt hchanges hinput hbuilt hanswer

/-- What is reported where nothing but a URL is wanted. -/
def reportOfUrl : Except ClientError String → Report
  | .ok url => { output := url ++ "\n" }
  | .error e => { failure := some (.client e) }

/-- With the URL alone, the URL is all that is printed, and the mode does not matter. -/
theorem run_action_of_urlOnly {term : String} {options : SearchOptions} (now : Int64)
    (hurlOnly : command.isUrlOnly = true) (hasks : command.Asks term options) :
    ((command.action client now).run transport state).1 =
      reportOfUrl (client.searchUrl term options) := by
  obtain ⟨hfilter, hnames, hrank⟩ := hasks
  rw [Command.isUrlOnly] at hurlOnly
  rw [← keepsNames_iff.1 hnames, ← spellsRank_map_iff.1 hrank, Command.action,
    readFilter?_eq_ok_iff.2 hfilter, hurlOnly]
  dsimp only
  rw [if_pos rfl]
  cases client.searchUrl term _ with
  | ok url => rfl
  | error e => rfl

/-- Nothing is printed of a command that fails, whether it fails before its request or after. -/
theorem output_eq_empty_of_failure (action : Action)
    (hfailed : (action.run transport state).1.failure ≠ none) :
    (action.run transport state).1.output = "" := by
  cases action with
  | print text => exact absurd rfl hfailed
  | fail error => rfl
  | request call =>
    rw [run_request] at hfailed ⊢
    cases hresult : (call.run transport state).1.result with
    | ok text =>
      rw [hresult] at hfailed
      exact absurd rfl hfailed
    | error e => rfl

theorem requests_run_request (call : Call String) :
    ((Action.request call).run transport state).1.requests = call.requests := by
  rw [run_request]
  cases (call.run transport state).1.result with
  | ok text => rfl
  | error e => rfl

theorem length_requests_le_one (action : Action) :
    (action.run transport state).1.requests.length ≤ 1 := by
  cases action with
  | print text => exact Nat.zero_le 1
  | fail error => exact Nat.zero_le 1
  | request call =>
    rw [requests_run_request]
    cases call with
    | settled outcome => exact Nat.zero_le 1
    | exchange entries request finish => exact Nat.le_refl 1

/-- With a configuration that nothing speaks against, a call is sent in live mode and only then. -/
theorem requests_eq_nil_iff_of_course {α : Type} {config : Config} {quiet : α}
    {holds : Request → Prop} {call : Call α} (h : Call.Course config quiet holds call)
    (hfit : config.problems = []) : call.requests = [] ↔ config.mode = .sandbox := by
  rw [← List.length_eq_zero_iff, h.length_requests]
  cases hm : config.mode with
  | sandbox => simp [Config.isReady_of_sandbox hm]
  | live =>
    simp [Config.isReady_of_live hm, Config.hasDomain_of_problems_eq_nil hfit hm]

theorem Takes.requests_eq_nil_iff {action : Action} (h : Takes client command action)
    (hfit : client.config.problems = []) :
    (action.run transport state).1.requests = [] ↔
      client.config.mode = .sandbox ∨ command.isUrlOnly = true ∨ command.HasBadInput := by
  cases h with
  | refused hbad => exact ⟨fun _ => .inr (.inr hbad), fun _ => rfl⟩
  | shown hasks hurlOnly hurl => exact ⟨fun _ => .inr (.inl hurlOnly), fun _ => rfl⟩
  | hasNoUrl hasks hurlOnly hurl => exact ⟨fun _ => .inr (.inl hurlOnly), fun _ => rfl⟩
  | @searches term options hasks hnot =>
    rw [requests_run_request, Call.requests_map,
      requests_eq_nil_iff_of_course (client.search_course term options) hfit]
    simp [hnot, hasks.not_hasBadInput]
  | changes hchanges hinput hbuilt hcourse =>
    have hnot : command.isUrlOnly = false := by
      cases command with
      | search => cases hchanges
      | _ => rfl
    rw [requests_run_request, Call.requests_map, requests_eq_nil_iff_of_course hcourse hfit]
    simp [hnot, hinput]

/-- The transport gets the requests that are reported, and nothing else. -/
theorem run_recorded_of_action (sent : List Request) (action : Action) :
    action.run transport.recorded (state, sent) =
      ((action.run transport state).1,
        ((action.run transport state).2, sent ++ (action.run transport state).1.requests)) := by
  cases action with
  | print text => simp [Action.run]
  | fail error => simp [Action.run]
  | request call =>
    rw [requests_run_request]
    rw [Action.run, Action.run, Call.run_recorded]
    dsimp only
    cases (call.run transport state).1.result with
    | ok text => rfl
    | error e => rfl

end CommandLine

end SearchDomain
