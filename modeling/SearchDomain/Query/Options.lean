/-
  SearchDomain.Query.Options

  What a caller may ask of a search beside the term.
-/
import SearchDomain.Filter.Basic
import SearchDomain.Rank

namespace SearchDomain

/-- The options of a search. -/
structure SearchOptions where
  filter : Option Filter := none
  /-- Hits on a page; none and zero mean the version's own number. -/
  pageSize : Option UInt32 := none
  /-- The page, counted from one. -/
  page : Option UInt32 := none
  /-- The fields to return with each hit; none for the ids alone. -/
  returnFields : List String := []
  rank : Option Rank := none
  /-- Where to go on in a long list of hits, for the version that has cursors. -/
  cursor : Option String := none
deriving Repr

namespace SearchOptions

/-- Whether hits are to come with fields. -/
def asksForFields (options : SearchOptions) : Bool :=
  !options.returnFields.isEmpty

/-- The page size that is asked for. -/
def pageSizeInForce (options : SearchOptions) (version : ApiVersion) : UInt32 :=
  match options.pageSize with
  | some size => if 0 < size then size else version.usualPageSize
  | none => version.usualPageSize

/-- The cursor that is sent. -/
def cursorInForce (options : SearchOptions) (version : ApiVersion) : Option String :=
  if version.hasCursors then options.cursor else none

/-- The number of hits in front of the page, when a page is asked for and no cursor is sent. -/
def start (options : SearchOptions) (version : ApiVersion) : Option Nat :=
  match options.page, options.cursorInForce version with
  | some page, none =>
    some ((max page.toNat 1 - 1) * (options.pageSizeInForce version).toNat)
  | _, _ => none

end SearchOptions

end SearchDomain
