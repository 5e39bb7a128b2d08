/-
  SearchDomain.Filter.Canonical

  What a filter says, apart from how it was put together: sequences are spliced
  into their parents, whatever is empty is dropped, and a value counts by its
  kind and the texts it prints.
-/
import SearchDomain.Filter.Basic

namespace SearchDomain

/-- A value that is not empty, by kind and printed texts. -/
inductive PrintedValue where
  | integer (text : String)
  | rangeLiteral (text : String)
  | dateRange (first last : String)
  | numericRange (least greatest : String)
  | scalar (text : String)
deriving DecidableEq, Repr

/-- The value's kind and printed texts, or nothing for an empty value. -/
def FilterValue.printed? (value : FilterValue) : Option PrintedValue :=
  if value.isEmpty then none
  else
    match value with
    | integer n => some (.integer (toString n.toInt))
    | rangeLiteral text => some (.rangeLiteral text)
    | dateRange first last => some (.dateRange first.timestamp last.timestamp)
    | numericRange least greatest => some (.numericRange least.plainText greatest.plainText)
    | scalar text => some (.scalar text)
    | empty => none

/-- A filter in canonical form. -/
inductive CanonicalFilter where
  | node (op : Connective) (children : List CanonicalFilter)
  | leaf (field : String) (value : PrintedValue)
deriving Repr

namespace Filter

mutual

/-- The canonical siblings that a filter contributes. -/
def canonical : Filter → List CanonicalFilter
  | logic op children =>
    match canonicalAll children with
    | [] => []
    | first :: rest => [.node op (first :: rest)]
  | condition field value =>
    match value.printed? with
    | some printed => [.leaf field printed]
    | none => []
  | sequence members => canonicalAll members

/-- The canonical siblings that filters contribute one after another. -/
def canonicalAll : List Filter → List CanonicalFilter
  | [] => []
  | filter :: rest => canonical filter ++ canonicalAll rest

end

mutual

/-- Whether every condition of a filter has an empty value. -/
def saysNothing : Filter → Bool
  | logic _ children => allSayNothing children
  | condition _ value => value.isEmpty
  | sequence members => allSayNothing members

/-- Whether every condition of some filters has an empty value. -/
def allSayNothing : List Filter → Bool
  | [] => true
  | filter :: rest => saysNothing filter && allSayNothing rest

end

end Filter

end SearchDomain
