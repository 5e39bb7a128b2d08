/-
  SearchDomain.Proofs.Config.Address

  Where the URLs of a configuration lead. A URL leads to what stands before its
  query and its fragment. Hosts are put together from the texts of the
  configuration as they are, and none of these texts is looked at for marks that
  begin a query or a fragment. Main statement: the path that a version and a
  service add to a host is part of where the URL leads exactly when the endpoint,
  or else the domain and the region, have no such mark.
-/
import SearchDomain.Proofs.Config.Domain
import SearchDomain.Proofs.Text.Split

namespace SearchDomain

/-! ## Queries and fragments -/

namespace Text

variable {p : Char → Bool} {c : Char}

/-- Dropping characters of a class leaves all others. -/
theorem mem_dropWhile_iff_of_eq_false (hc : p c = false) (cs : List Char) :
    c ∈ cs.dropWhile p ↔ c ∈ cs := by
  induction cs with
  | nil => exact Iff.rfl
  | cons d cs ih =>
    by_cases hd : p d = true
    · have hne : c ≠ d := by
        rintro rfl
        exact Bool.false_ne_true (hc.symm.trans hd)
      rw [List.dropWhile_cons_of_pos hd, ih, List.mem_cons, or_iff_right hne]
    · rw [List.dropWhile_cons_of_neg hd]

theorem mem_dropEndWhile_iff_of_eq_false (hc : p c = false) (cs : List Char) :
    c ∈ dropEndWhile p cs ↔ c ∈ cs := by
  rw [dropEndWhile, List.mem_reverse, mem_dropWhile_iff_of_eq_false hc, List.mem_reverse]

end Text

namespace Web

/-- Whether a character begins a query or a fragment. -/
def endsPath (c : Char) : Bool :=
  c = '?' || c = '#'

/-- Where a URL leads: what stands before its query and its fragment. -/
def beforeQuery (url : String) : String :=
  String.ofList (url.toList.takeWhile fun c => !endsPath c)

/-- Whether a text has no mark that begins a query or a fragment. -/
def HasNoQuery (s : String) : Prop :=
  '?' ∉ s.toList ∧ '#' ∉ s.toList

instance (s : String) : Decidable (HasNoQuery s) :=
  inferInstanceAs (Decidable (_ ∧ _))

theorem hasNoQuery_iff {s : String} : HasNoQuery s ↔ ∀ c ∈ s.toList, endsPath c = false := by
  constructor
  · rintro ⟨hquestion, hnumber⟩ c hc
    have hne : c ≠ '?' ∧ c ≠ '#' := ⟨fun h => hquestion (h ▸ hc), fun h => hnumber (h ▸ hc)⟩
    simpa [endsPath] using hne
  · intro h
    exact ⟨fun hc => absurd (h _ hc) (by decide), fun hc => absurd (h _ hc) (by decide)⟩

theorem hasNoQuery_append (s t : String) :
    HasNoQuery (s ++ t) ↔ HasNoQuery s ∧ HasNoQuery t := by
  simp only [HasNoQuery, String.toList_append, List.mem_append, not_or]
  exact and_and_and_comm

theorem hasNoQuery_trim (s : String) : HasNoQuery (Text.trim s) ↔ HasNoQuery s := by
  have hkept : ∀ c, Text.isBlank c = false → (c ∈ (Text.trim s).toList ↔ c ∈ s.toList) := by
    intro c hc
    rw [Text.toList_trim, Text.mem_dropEndWhile_iff_of_eq_false hc,
      Text.mem_dropWhile_iff_of_eq_false hc]
  rw [HasNoQuery, HasNoQuery, hkept '?' (by decide), hkept '#' (by decide)]

theorem hasNoQuery_trimEndSlashes (s : String) :
    HasNoQuery (Text.trimEndSlashes s) ↔ HasNoQuery s := by
  rw [HasNoQuery, HasNoQuery, Text.toList_trimEndSlashes,
    Text.mem_dropEndWhile_iff_of_eq_false (by decide),
    Text.mem_dropEndWhile_iff_of_eq_false (by decide)]

/-- A URL leads to what was put before a question mark exactly when that has no such mark itself. -/
theorem beforeQuery_eq_iff (path query : String) :
    beforeQuery (path ++ "?" ++ query) = path ↔ HasNoQuery path := by
  have hmark : "?".toList = ['?'] := rfl
  rw [hasNoQuery_iff, ← String.toList_inj, beforeQuery, String.toList_ofList, String.toList_append,
    String.toList_append, hmark, List.append_assoc, List.singleton_append]
  constructor
  · intro h c hc
    rw [← h] at hc
    simpa using List.mem_takeWhile_imp hc
  · intro h
    exact Text.takeWhile_append_of_stopsAt h (Text.stopsAt_cons.2 rfl)

end Web

/-! ## Hosts -/

namespace Config

open Web (HasNoQuery beforeQuery hasNoQuery_append)

/-- The texts of which the hosts for a domain are made: the endpoint if there is one, and else the
domain and the region. -/
def hostTexts (config : Config) (domain : String) : List String :=
  match config.endpoint with
  | some endpoint => [endpoint]
  | none => [domain, config.region]

variable {config : Config} {domain : String}

/-- Only the domain and the region can bring a query into a public host. -/
theorem hasNoQuery_publicHost_iff {service : String} (hservice : HasNoQuery service) :
    HasNoQuery (config.publicHost service domain) ↔
      HasNoQuery domain ∧ HasNoQuery config.region := by
  have hscheme : HasNoQuery "http://" := by decide
  have hhyphen : HasNoQuery "-" := by decide
  have hpoint : HasNoQuery "." := by decide
  have hback : HasNoQuery ".cloudsearch.amazonaws.com" := by decide
  rw [publicHost]
  simp only [hasNoQuery_append, hscheme, hservice, hhyphen, hpoint, hback, true_and, and_true]

theorem hasNoQuery_host_iff {service : String} (hservice : HasNoQuery service) :
    HasNoQuery (config.host service (Text.trim domain)) ↔
      ∀ text ∈ config.hostTexts domain, HasNoQuery text := by
  rw [host, hostTexts]
  cases config.endpoint with
  | some endpoint => simp [Web.hasNoQuery_trimEndSlashes]
  | none => simp [hasNoQuery_publicHost_iff hservice, Web.hasNoQuery_trim]

/-! ## URLs -/

/-- A version and a path behind a host bring no query into it. -/
theorem hasNoQuery_versioned_iff (host : String) (version : ApiVersion) {path : String}
    (hpath : HasNoQuery path) : HasNoQuery (host ++ "/" ++ version.text ++ path) ↔
      HasNoQuery host := by
  have hslash : HasNoQuery "/" := by decide
  have hversion : HasNoQuery version.text := by
    cases version with
    | legacy => decide
    | structured => decide
  rw [hasNoQuery_append, hasNoQuery_append, hasNoQuery_append]
  simp only [hslash, hversion, hpath, and_true]

theorem beforeQuery_searchUrl_iff (host : String) (version : ApiVersion) (term : String)
    (options : SearchOptions) :
    beforeQuery (Query.searchUrl host version term options) =
      host ++ "/" ++ version.text ++ "/search" ↔ HasNoQuery host := by
  have hurl : Query.searchUrl host version term options =
      host ++ "/" ++ version.text ++ "/search" ++ "?" ++
        Query.queryString version term options := by
    have hmark : "/search?" = "/search" ++ "?" := by decide
    simp only [Query.searchUrl, hmark, String.append_assoc]
  rw [hurl, Web.beforeQuery_eq_iff, hasNoQuery_versioned_iff host version (by decide)]

/-- A configuration with a domain has a URL for document batches and for every search. That for
batches has neither a question mark nor a number sign, and that for a search leads to the search
path of the version at its host, exactly when no text of which hosts are made has one of these
marks. -/
theorem urls_leadToHost_iff (hdomain : config.searchDomain = some domain)
    (hblank : Text.isBlankText domain = false) :
    ∃ batch, config.batchUrl = .ok batch ∧
      (HasNoQuery batch ↔ ∀ text ∈ config.hostTexts domain, HasNoQuery text) ∧
      ∀ term options, ∃ url, config.searchUrl term options = .ok url ∧
        (beforeQuery url =
            config.searchHost (Text.trim domain) ++ "/" ++ config.apiVersion.text ++ "/search" ↔
          ∀ text ∈ config.hostTexts domain, HasNoQuery text) := by
  refine ⟨_, batchUrl_of_searchDomain hdomain hblank, ?_, fun term options => ?_⟩
  · rw [hasNoQuery_versioned_iff _ _ (by decide), documentHost, hasNoQuery_host_iff (by decide)]
  · have hurl : config.searchUrl term options = .ok (Query.searchUrl
        (config.searchHost (Text.trim domain)) config.apiVersion term options) := by
      rw [searchUrl, requireDomain_of_searchDomain hdomain hblank]
      rfl
    refine ⟨_, hurl, ?_⟩
    rw [beforeQuery_searchUrl_iff, searchHost, hasNoQuery_host_iff (by decide)]

/-- White space around the domain and slashes behind the endpoint are no marks, nor is a path in the
endpoint; the domain does not count beside an endpoint. -/
theorem urls_leadToHost_iff_of_endpoint :
    (forDomain " books? ").searchDomain = some " books? " ∧
    Text.isBlankText " books? " = false ∧
    { forDomain " books? " with endpoint := some "http://localhost:9000/base//" }.problems = [] ∧
    ∃ url, { forDomain " books? " with
        endpoint := some "http://localhost:9000/base//" }.searchUrl "x?#" {} = .ok url ∧
      beforeQuery url = "http://localhost:9000/base/2011-02-01/search" := by
  have hblank : Text.isBlankText " books? " = false := by decide
  have hproblems : { forDomain " books? " with
      endpoint := some "http://localhost:9000/base//" }.problems = [] := by decide +kernel
  have hdomain : { forDomain " books? " with
      endpoint := some "http://localhost:9000/base//" }.searchDomain = some " books? " := rfl
  obtain ⟨_, -, -, hsearch⟩ := urls_leadToHost_iff hdomain hblank
  obtain ⟨url, hurl, hleads⟩ := hsearch "x?#" {}
  refine ⟨rfl, hblank, hproblems, url, hurl, ?_⟩
  rw [hleads.2 (by decide)]
  decide

/-- A domain with a question mark passes for a fit one, and the path and most of the host end up in
the query. -/
theorem fit_urls_not_leadToHost :
    (forDomain "books?x").problems = [] ∧
    (∃ batch, (forDomain "books?x").batchUrl = .ok batch ∧ ¬HasNoQuery batch) ∧
    ∃ url, (forDomain "books?x").searchUrl "x" {} = .ok url ∧
      beforeQuery url = "http://search-books" ∧
      beforeQuery url ≠ (forDomain "books?x").searchHost "books?x" ++ "/2011-02-01/search" := by
  exact ⟨by decide, ⟨_, rfl, by decide⟩, _, rfl, by decide, by decide⟩

end Config

end SearchDomain
