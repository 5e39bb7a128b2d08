/-
  SearchDomain.Filter.Basic

  Boolean filters: trees of conditions on fields.
-/
import SearchDomain.Filter.Value

namespace SearchDomain

/-- How a node combines its children. -/
inductive Connective where
  | all
  | any
  | negation
deriving DecidableEq, Repr

namespace Connective

/-- The operator in the query language. -/
def keyword : Connective → String
  | all => "and"
  | any => "or"
  | negation => "not"

/-- The operator with a keyword; case counts. -/
def ofKeyword? (s : String) : Option Connective :=
  if s = "and" then some all
  else if s = "or" then some any
  else if s = "not" then some negation
  else none

theorem ofKeyword?_keyword (op : Connective) : ofKeyword? op.keyword = some op := by
  cases op <;> rfl

end Connective

/-- A boolean filter. Children and members keep their order. -/
inductive Filter where
  /-- An operator over children. -/
  | logic (op : Connective) (children : List Filter)
  /-- A condition on one field. -/
  | condition (field : String) (value : FilterValue)
  /-- Filters side by side, without an operator of their own. -/
  | sequence (members : List Filter)
deriving Repr

namespace Filter

/-- The filters directly below; a condition has none. -/
def children : Filter → List Filter
  | logic _ children => children
  | condition _ _ => []
  | sequence members => members

/-- Adds a filter behind the children; a condition stays as it is. -/
def push (filter child : Filter) : Filter :=
  match filter with
  | logic op children => logic op (children ++ [child])
  | condition field value => condition field value
  | sequence members => sequence (members ++ [child])

end Filter

end SearchDomain
