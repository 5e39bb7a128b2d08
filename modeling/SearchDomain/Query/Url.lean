/-
  SearchDomain.Query.Url

  The URL of a search: the host, the version, and a query string made of the
  term, the compiled filter and the options.
-/
import SearchDomain.Filter.Compile
import SearchDomain.Query.Form
import SearchDomain.Query.Options

namespace SearchDomain

/-- A parameter of a query string. -/
inductive QueryParameter where
  /-- A parameter whose value is written in form encoding. -/
  | encoded (name value : String)
  /-- A parameter whose value is written as it is. -/
  | verbatim (name value : String)
deriving DecidableEq, Repr

namespace QueryParameter

def text : QueryParameter → String
  | encoded name value => name ++ "=" ++ Query.encode value
  | verbatim name value => name ++ "=" ++ value

end QueryParameter

namespace Query

/-- The parameters that carry the term and the compiled filter. The structured version joins the
two in one query, the term as a literal; the other keeps them apart. -/
def termParameters (term : String) (filter : Option String) :
    ApiVersion → List (String × String)
  | .legacy =>
    match filter with
    | some compiled => [("q", term), ("bq", compiled)]
    | none => [("q", term)]
  | .structured =>
    match filter with
    | some compiled =>
      let query :=
        if term = "" then compiled else "(and " ++ Text.quote term ++ " " ++ compiled ++ ")"
      [("q", query), ("q.parser", "structured")]
    | none => [("q", term)]

/-- The compiled filter of a search, unless there is none or it says nothing. -/
def compiledFilter (options : SearchOptions) : Option String :=
  options.filter.bind Filter.compile?

/-- All parameters of a search in the order in which they are sent. -/
def parameters (version : ApiVersion) (term : String) (options : SearchOptions) :
    List QueryParameter :=
  (termParameters term (compiledFilter options) version).map
      (fun parameter => .encoded parameter.1 parameter.2) ++
    [.encoded "size" (toString (options.pageSizeInForce version).toNat)] ++
    (if options.asksForFields then
      [.verbatim version.returnFieldsParameter (",".intercalate options.returnFields)]
    else []) ++
    ((options.start version).map fun start => .encoded "start" (toString start)).toList ++
    (options.rank.map fun rank =>
      .encoded version.rankParameter (rank.fragment version)).toList ++
    ((options.cursorInForce version).map (.encoded "cursor")).toList

/-- The query string of a search. -/
def queryString (version : ApiVersion) (term : String) (options : SearchOptions) : String :=
  "&".intercalate ((parameters version term options).map QueryParameter.text)

/-- The URL of a search at a host, which has no slash at its end. -/
def searchUrl (host : String) (version : ApiVersion) (term : String) (options : SearchOptions) :
    String :=
  host ++ "/" ++ version.text ++ "/search?" ++ queryString version term options

/-! ## Hosts -/

/-- The public search host of a domain in a region. -/
def searchHost (domain region : String) : String :=
  "http://search-" ++ domain ++ "." ++ region ++ ".cloudsearch.amazonaws.com"

/-- The URL of a search at the public host. -/
def publicSearchUrl (domain region : String) (version : ApiVersion) (term : String)
    (options : SearchOptions) : String :=
  searchUrl (searchHost domain region) version term options

/-- The URL of a search at a host of the caller's, whose slashes at the end do not count. -/
def endpointSearchUrl (endpoint : String) (version : ApiVersion) (term : String)
    (options : SearchOptions) : String :=
  searchUrl (Text.trimEndSlashes endpoint) version term options

end Query

end SearchDomain
