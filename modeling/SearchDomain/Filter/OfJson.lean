/-
  SearchDomain.Filter.OfJson

  Filters from JSON. A member named by an operator whose value is an object is a
  node over the members of that object; any other member is a condition on the
  field it names.
-/
import SearchDomain.Filter.Basic
import SearchDomain.Json.Basic

namespace SearchDomain

/-- Why a JSON value is no filter. -/
inductive FilterError where
  /-- The whole is not an object but a value of this sort. -/
  | notObject (sort : String)
  /-- The value of a field is of a sort that no condition takes. -/
  | unsupportedValue (sort field : String)
  /-- The two ends given for a field are neither numbers nor timestamps. -/
  | badRange (field : String)
deriving DecidableEq, Repr

namespace FilterError

def message : FilterError → String
  | notObject sort => "expected an object, found " ++ sort
  | unsupportedValue sort field =>
    "unsupported " ++ sort ++ " value for field '" ++ field ++ "'"
  | badRange field =>
    "range for field '" ++ field ++ "' must be two numbers or two RFC 3339 timestamps"

end FilterError

namespace FilterValue

/-- The instant that a JSON string spells as a timestamp. -/
def instantOfJson? (json : Json) : Option Instant :=
  json.asString?.bind Instant.ofTimestamp?

/-- A range between two numbers or two timestamps. -/
def rangeOfJson (field : String) (least greatest : Json) : Except FilterError FilterValue :=
  match least.asBinary64?, greatest.asBinary64? with
  | some x, some y => .ok (numericRange x y)
  | _, _ =>
    match instantOfJson? least, instantOfJson? greatest with
    | some first, some last => .ok (dateRange first last)
    | _, _ => .error (.badRange field)

/-- The value of a condition. A number that is not a 64-bit integer becomes its text, and an array
of two is a range. -/
def ofJson (field : String) : Json → Except FilterError FilterValue
  | .null => .ok empty
  | .bool b => .ok (ofBool b)
  | .number n =>
    match n.toInt64? with
    | some i => .ok (integer i)
    | none => .ok (scalar n.text)
  | .string s => .ok (ofText s)
  | .array [least, greatest] => rangeOfJson field least greatest
  | other => .error (.unsupportedValue other.sort field)

end FilterValue

namespace Filter

mutual

/-- The filter that a member of an object describes. -/
def ofMember (name : String) : Json → Except FilterError Filter
  | .object members =>
    match Connective.ofKeyword? name with
    | some op => (ofMembers members).map (logic op)
    | none => (FilterValue.ofJson name (.object members)).map (condition name)
  | value => (FilterValue.ofJson name value).map (condition name)

/-- The filters that members describe, in order, up to the first that describes none. -/
def ofMembers : List (String × Json) → Except FilterError (List Filter)
  | [] => .ok []
  | (name, value) :: rest =>
    match ofMember name value with
    | .error e => .error e
    | .ok filter => (ofMembers rest).map (filter :: ·)

end

/-- The filter that a JSON value describes: the filter of its only member, or the sequence of the
filters of its members. -/
def ofJson : Json → Except FilterError Filter
  | .object members =>
    match ofMembers members with
    | .error e => .error e
    | .ok [filter] => .ok filter
    | .ok filters => .ok (sequence filters)
  | other => .error (.notObject other.sort)

end Filter

end SearchDomain
