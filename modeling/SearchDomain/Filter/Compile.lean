/-
  SearchDomain.Filter.Compile

  Filters as text of the boolean query language, which both API versions share.
  A node stands in parentheses behind its keyword, a condition is a field, a
  colon and a value, and what says nothing leaves no trace.
-/
import SearchDomain.Filter.Basic
import SearchDomain.Text.Blank
import SearchDomain.Text.Quoted

namespace SearchDomain

open Text (quote trimStart)

namespace FilterValue

/-- The value as it stands behind the colon, or nothing for an empty one. -/
def render (value : FilterValue) : Option String :=
  if value.isEmpty then none
  else
    match value with
    | integer n => some (toString n.toInt)
    | rangeLiteral text => some text
    | dateRange first last =>
      some ("[" ++ quote first.timestamp ++ "," ++ quote last.timestamp ++ "]")
    | numericRange least greatest =>
      some ("[" ++ least.plainText ++ "," ++ greatest.plainText ++ "]")
    | scalar text => some (quote text)
    | empty => none

theorem render_eq_none_iff (value : FilterValue) : value.render = none ↔ value.isEmpty = true := by
  cases h : value.isEmpty
  · cases value <;> simp_all [render, isEmpty]
  · simp [render, h]

end FilterValue

namespace Filter

/-- A condition on its own, or nothing when its value is empty. -/
def conditionText (field : String) (value : FilterValue) : Option String :=
  value.render.map fun text => field ++ ":" ++ text

mutual

/-- A filter among its siblings: a space sets off a condition, parentheses a node. -/
def renderSibling : Filter → String
  | logic op children =>
    let inner := renderSiblings children
    if inner = "" then "" else "(" ++ op.keyword ++ inner ++ ")"
  | condition field value =>
    match conditionText field value with
    | some text => " " ++ text
    | none => ""
  | sequence members => renderSiblings members

/-- Filters back to back. -/
def renderSiblings : List Filter → String
  | [] => ""
  | filter :: rest => renderSibling filter ++ renderSiblings rest

end

/-- A whole filter, without white space in front of a sequence. -/
def compile : Filter → String
  | logic op children => renderSibling (logic op children)
  | condition field value => (conditionText field value).getD ""
  | sequence members => trimStart (renderSiblings members)

/-- The compiled filter, unless it says nothing. -/
def compile? (filter : Filter) : Option String :=
  let text := filter.compile
  if text = "" then none else some text

theorem compile?_eq_none_iff {filter : Filter} : filter.compile? = none ↔ filter.compile = "" := by
  by_cases h : filter.compile = "" <;> simp [compile?, h]

theorem compile?_eq_some_iff {filter : Filter} {text : String} :
    filter.compile? = some text ↔ filter.compile = text ∧ text ≠ "" := by
  by_cases h : filter.compile = ""
  · simp +contextual [compile?, h, eq_comm]
  · simp only [compile?, h, if_false, Option.some.injEq]
    constructor
    · rintro rfl
      exact ⟨rfl, h⟩
    · exact fun hc => hc.1

end Filter

end SearchDomain
