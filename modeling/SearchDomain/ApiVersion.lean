/-
  SearchDomain.ApiVersion

  The two versions of the service's interface, and what differs between them
  apart from the shape of a query: sizes, parameter names, and what a document
  operation carries.
-/
import SearchDomain.Text.Blank

namespace SearchDomain

/-- A version of the service's interface. -/
inductive ApiVersion where
  /-- `2011-02-01`: term and filter in parameters of their own. -/
  | legacy
  /-- `2013-01-01`: term and filter in one structured query, and cursors. -/
  | structured
deriving DecidableEq, Repr

namespace ApiVersion

/-- The version as it stands in paths. -/
def text : ApiVersion → String
  | legacy => "2011-02-01"
  | structured => "2013-01-01"

/-- The version spelled by a text without regard to white space around it. -/
def ofText? (s : String) : Option ApiVersion :=
  let name := Text.trim s
  if name = legacy.text then some legacy
  else if name = structured.text then some structured
  else none

/-- The version in force when none is given. -/
def default : ApiVersion := legacy

instance : Inhabited ApiVersion := ⟨default⟩

/-! ## Differences -/

/-- How many hits a page has when the caller does not say. -/
def usualPageSize : ApiVersion → UInt32
  | legacy => 10
  | structured => 100

/-- The parameter that carries the order of hits. -/
def rankParameter : ApiVersion → String
  | legacy => "rank"
  | structured => "sort"

/-- The parameter that lists the fields to return. -/
def returnFieldsParameter : ApiVersion → String
  | legacy => "return-fields"
  | structured => "return"

/-- Whether a cursor can be sent. -/
def hasCursors : ApiVersion → Bool
  | legacy => false
  | structured => true

/-- The member of a hit that holds its fields. -/
def hitFieldsMember : ApiVersion → String
  | legacy => "data"
  | structured => "fields"

/-- The version number of a document operation made at a time in Unix seconds. -/
def operationVersion (now : Int64) : ApiVersion → Option Int64
  | legacy => some now
  | structured => none

/-- The language of an added document. -/
def documentLanguage : ApiVersion → Option String
  | legacy => some "en"
  | structured => none

end ApiVersion

end SearchDomain
