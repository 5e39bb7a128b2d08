/-
  SearchDomain.Proofs.Config.Domain

  When a configuration has a search domain, and what it addresses with it. A
  domain of nothing but white space counts as none; any other is used without
  the white space around it.
-/
import Mathlib.Data.List.TakeWhile
import SearchDomain.Config.Basic

namespace SearchDomain

/-! ## Blank texts -/

namespace Text

theorem dropEndWhile_dropWhile_eq_nil_iff (p : Char → Bool) (cs : List Char) :
    dropEndWhile p (cs.dropWhile p) = [] ↔ cs.all p = true := by
  constructor
  · intro h
    have hall : ∀ c ∈ cs.dropWhile p, p c = true := by
      rw [dropEndWhile, List.reverse_eq_nil_iff, List.dropWhile_eq_nil_iff] at h
      intro c hc
      exact h c (List.mem_reverse.2 hc)
    rw [List.all_eq_true]
    intro c hc
    rw [← List.takeWhile_append_dropWhile (p := p) (l := cs), List.mem_append] at hc
    cases hc with
    | inl hc => exact List.mem_takeWhile_imp hc
    | inr hc => exact hall c hc
  · intro h
    rw [List.all_eq_true] at h
    rw [List.dropWhile_eq_nil_iff.2 h]
    rfl

/-- Trimming leaves nothing of a blank text, and something of any other. -/
theorem trim_eq_empty_iff (s : String) : trim s = "" ↔ isBlankText s = true := by
  rw [← String.toList_inj, toList_trim, isBlankText]
  exact dropEndWhile_dropWhile_eq_nil_iff isBlank s.toList

end Text

namespace Config

/-! ## The domain in force -/

/-- Whether there is a search domain that has anything but white space. -/
def hasDomain (config : Config) : Bool :=
  config.searchDomain.any fun domain => !Text.isBlankText domain

/-- Whether calls reach the service. -/
def isReady (config : Config) : Bool :=
  config.mode == .live && config.hasDomain

theorem isReady_of_sandbox {config : Config} (h : config.mode = .sandbox) :
    config.isReady = false := by
  rw [isReady, h]
  rfl

theorem isReady_of_live {config : Config} (h : config.mode = .live) :
    config.isReady = config.hasDomain := by
  rw [isReady, h]
  rfl

theorem hasDomain_eq_true_iff (config : Config) :
    config.hasDomain = true ↔
      ∃ domain, config.searchDomain = some domain ∧ Text.isBlankText domain = false := by
  rw [hasDomain, Option.any_eq_true]
  simp only [Bool.not_eq_true']

theorem domain?_eq_none_iff (config : Config) :
    config.domain? = none ↔ config.hasDomain = false := by
  rw [domain?, hasDomain]
  cases config.searchDomain with
  | none => simp
  | some domain => simp [Option.filter_some, Text.trim_eq_empty_iff]

/-- A configuration that nothing speaks against has a domain if it is live. -/
theorem hasDomain_of_problems_eq_nil {config : Config} (h : config.problems = [])
    (hl : config.mode = .live) : config.hasDomain = true := by
  cases hd : config.hasDomain with
  | true => rfl
  | false =>
    have hnone := (domain?_eq_none_iff config).2 hd
    rw [problems, if_pos ⟨hl, hnone⟩] at h
    cases h

theorem requireDomain_of_hasDomain_eq_false {config : Config} (h : config.hasDomain = false) :
    config.requireDomain = .error (.missing "search_domain") := by
  rw [requireDomain, (domain?_eq_none_iff config).2 h]

/-- The domain that requests go by is the given one, trimmed. -/
theorem requireDomain_of_searchDomain {config : Config} {domain : String}
    (h : config.searchDomain = some domain) (hb : Text.isBlankText domain = false) :
    config.requireDomain = .ok (Text.trim domain) := by
  have hne : Text.trim domain ≠ "" := by
    rw [Ne, Text.trim_eq_empty_iff, hb]
    exact Bool.false_ne_true
  simp [requireDomain, domain?, h, Option.filter_some, hne]

/-! ## Addresses -/

/-- The URL of a search as it is made without a client: at the endpoint if there is one, and
else at the public host of the domain. -/
def builtSearchUrl (config : Config) (domain term : String) (options : SearchOptions) : String :=
  match config.endpoint with
  | some endpoint => Query.endpointSearchUrl endpoint config.apiVersion term options
  | none => Query.publicSearchUrl domain config.region config.apiVersion term options

/-- The public host of searches is the one to which a URL made without a client goes. -/
theorem publicHost_search (config : Config) (domain : String) :
    config.publicHost "search" domain = Query.searchHost domain config.region := by
  have hfront : "http://" ++ "search" ++ "-" = "http://search-" := by decide
  exact congrArg
    (fun front => front ++ domain ++ "." ++ config.region ++ ".cloudsearch.amazonaws.com") hfront

/-- A client searches where a URL made without it leads. -/
theorem searchUrl_searchHost (config : Config) (domain term : String) (options : SearchOptions) :
    Query.searchUrl (config.searchHost domain) config.apiVersion term options =
      config.builtSearchUrl domain term options := by
  rw [searchHost, host, builtSearchUrl]
  cases config.endpoint with
  | some endpoint => rfl
  | none =>
    dsimp only
    rw [publicHost_search, Query.publicSearchUrl]

theorem searchUrl_of_searchDomain {config : Config} {domain : String}
    (h : config.searchDomain = some domain) (hb : Text.isBlankText domain = false)
    (term : String) (options : SearchOptions) :
    config.searchUrl term options =
      .ok (config.builtSearchUrl (Text.trim domain) term options) := by
  rw [searchUrl, requireDomain_of_searchDomain h hb, ← searchUrl_searchHost]
  rfl

theorem searchUrl_of_hasDomain_eq_false {config : Config} (h : config.hasDomain = false)
    (term : String) (options : SearchOptions) :
    config.searchUrl term options = .error (.missing "search_domain") := by
  rw [searchUrl, requireDomain_of_hasDomain_eq_false h]
  rfl

theorem batchUrl_of_searchDomain {config : Config} {domain : String}
    (h : config.searchDomain = some domain) (hb : Text.isBlankText domain = false) :
    config.batchUrl =
      .ok (config.documentHost (Text.trim domain) ++ "/" ++ config.apiVersion.text ++
        "/documents/batch") := by
  rw [batchUrl, requireDomain_of_searchDomain h hb]
  rfl

theorem batchUrl_of_hasDomain_eq_false {config : Config} (h : config.hasDomain = false) :
    config.batchUrl = .error (.missing "search_domain") := by
  rw [batchUrl, requireDomain_of_hasDomain_eq_false h]
  rfl

end Config

end SearchDomain
