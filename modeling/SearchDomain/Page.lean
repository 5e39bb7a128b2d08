/-
  SearchDomain.Page

  A page of search hits with its place among all matches.
-/
import SearchDomain.Json.Basic

namespace SearchDomain

/-- The hits of a page in the order of the answer. -/
inductive Hits where
  /-- The ids alone, repeats included. -/
  | ids (ids : List String)
  /-- Ids with their fields. A repeated id keeps its first place and its last fields. -/
  | documents (documents : Entries (Entries Json))
deriving Repr

namespace Hits

def toIds : Hits → List String
  | .ids found => found
  | .documents found => found.names

def toJson : Hits → Json
  | .ids found => .array (found.map .string)
  | .documents found => .object (found.map fun entry => (entry.1, .object entry.2))

end Hits

/-- Why an answer gives no page. -/
inductive PageError where
  /-- The answer has no `hits` object. -/
  | noHits
  /-- The page number does not fit in 64 bits. -/
  | pageOverflow
deriving DecidableEq, Repr

namespace PageError

def message : PageError → String
  | noHits => "response has no hits object"
  | pageOverflow => "attempt to add with overflow"

end PageError

/-- A page of hits. -/
structure Page where
  hits : Hits
  /-- How many documents match in all. -/
  totalEntries : Nat
  /-- How many hits a page has at most, at least one. -/
  pageSize : Nat
  /-- The number of this page, counted from one. -/
  currentPage : Nat
  /-- Where the next page begins, for the version that has cursors. -/
  cursor : Option String
deriving Repr

namespace Page

/-! ## Reading an answer -/

/-- The id of a hit: a text, or the text of a number. -/
def idOfHit? (hit : Json) : Option String :=
  match hit.member? "id" with
  | some (.string s) => some s
  | some (.number n) => some n.text
  | _ => none

/-- The fields of a hit, under the given name or else under one of the two usual ones. -/
def hitFields (key : String) (hit : Json) : Entries Json :=
  let found := (hit.member? key).orElse fun _ =>
    (hit.member? "fields").orElse fun _ => hit.member? "data"
  (found.bind Json.asObject?).getD []

/-- The hits of an answer; what has no id is left out. -/
def readHits (fieldsKey : Option String) (entries : List Json) : Hits :=
  match fieldsKey with
  | none => .ids (entries.filterMap idOfHit?)
  | some key =>
    .documents (Entries.ofPairs (entries.filterMap fun hit =>
      (idOfHit? hit).map fun id => (id, hitFields key hit)))

/-- Reads the page from the body of an answer. Numbers that are missing or are no 64-bit unsigned
integers count as zero. -/
def ofResponse (body : Json) (pageSize : UInt32) (fieldsKey : Option String) :
    Except PageError Page :=
  match (body.member? "hits").bind Json.asObject? with
  | none => .error .noHits
  | some found =>
    let hits := Json.object found
    let size := max pageSize.toNat 1
    let start := ((hits.member? "start").bind Json.asNat?).getD 0
    let currentPage := start / size + 1
    -- only a start of `2 ^ 64 - 1` with one hit on a page goes beyond 64 bits
    if currentPage < 0x10000000000000000 then
      .ok {
        hits := readHits fieldsKey (((hits.member? "hit").bind Json.asArray?).getD [])
        totalEntries := ((hits.member? "found").bind Json.asNat?).getD 0
        pageSize := size
        currentPage := currentPage
        cursor := (hits.member? "cursor").bind Json.asString? }
    else .error .pageOverflow

/-- The empty first page that stands in for an answer when nothing is sent. -/
def emptyFirst : Page :=
  { hits := .ids [], totalEntries := 0, pageSize := 10, currentPage := 1, cursor := none }

/-! ## Hits -/

def ids (page : Page) : List String :=
  page.hits.toIds

/-- How many hits the page has. -/
def length (page : Page) : Nat :=
  page.ids.length

/-- The id at an index. -/
def get? (page : Page) (index : Nat) : Option String :=
  page.ids[index]?

/-- What a caller is told who asks for an id at an index that the page does not have. -/
def outOfBoundsMessage (page : Page) (index : Nat) : String :=
  "index out of bounds: the len is " ++ toString page.length ++ " but the index is " ++
    toString index

/-- Ids with fields, when fields were asked for. -/
def documents? (page : Page) : Option (Entries (Entries Json)) :=
  match page.hits with
  | .ids _ => none
  | .documents documents => some documents

/-- The fields of the hit with an id. -/
def document? (page : Page) (id : String) : Option (Entries Json) :=
  page.documents?.bind fun documents => documents.find? id

/-! ## Paging -/

/-- How many pages there are, at least one. -/
def totalPages (page : Page) : Nat :=
  max ((page.totalEntries + page.pageSize - 1) / page.pageSize) 1

/-- The number of hits in front of this page. -/
def offset (page : Page) : Nat :=
  (page.currentPage - 1) * page.pageSize

def previousPage (page : Page) : Option Nat :=
  if 1 < page.currentPage then some (page.currentPage - 1) else none

def nextPage (page : Page) : Option Nat :=
  if page.currentPage < page.totalPages then some (page.currentPage + 1) else none

def toJson (page : Page) : Json :=
  .object <|
    [("hits", page.hits.toJson), ("total_entries", .whole page.totalEntries),
      ("page_size", .whole page.pageSize), ("current_page", .whole page.currentPage)] ++
    (page.cursor.map fun cursor => ("cursor", Json.string cursor)).toList

end Page

end SearchDomain
