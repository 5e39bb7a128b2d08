/-
  SearchDomain.Document.Field

  Field values of documents, and what they look like in a batch.
-/
import SearchDomain.Calendar.Instant
import SearchDomain.Json.Writer

namespace SearchDomain

/-- The value of a document field. -/
inductive FieldValue where
  /-- No value; submitted as an empty text. -/
  | null
  | bool (b : Bool)
  | integer (n : Int64)
  | real (x : Binary64)
  | text (s : String)
  /-- Submitted as a timestamp. -/
  | instant (t : Instant)
  /-- A field with several values. -/
  | list (items : List FieldValue)
deriving Repr

/-- The fields of a document in order. -/
abbrev DocumentFields := Entries FieldValue

namespace FieldValue

mutual

/-- The value as it is submitted: no value is an empty text, an instant is its timestamp. -/
def submitted : FieldValue → FieldValue
  | null => text ""
  | instant t => text t.timestamp
  | list items => list (submittedAll items)
  -- all else is submitted as it is
  | other => other

/-- Several values as they are submitted. -/
def submittedAll : List FieldValue → List FieldValue
  | [] => []
  | item :: rest => submitted item :: submittedAll rest

end

mutual

/-- The value in JSON. -/
def toJson : FieldValue → Json
  | null => .null
  | bool b => .bool b
  | integer n => .whole n.toInt
  | real x => .real x
  | text s => .string s
  | instant t => .string t.timestamp
  | list items => .array (allToJson items)

/-- Several values in JSON. -/
def allToJson : List FieldValue → List Json
  | [] => []
  | item :: rest => toJson item :: allToJson rest

end

mutual

/-- The field value for a JSON value. A number that is no 64-bit integer is taken in binary64, and
an object is taken as its compact text. -/
def ofJson : Json → FieldValue
  | .null => null
  | .bool b => bool b
  | .number n =>
    match n.toInt64? with
    | some i => integer i
    | none => real n.toBinary64
  | .string s => text s
  | .array items => list (allOfJson items)
  | .object members => text (Json.object members).compact

/-- The field values for several JSON values. -/
def allOfJson : List Json → List FieldValue
  | [] => []
  | item :: rest => ofJson item :: allOfJson rest

end

end FieldValue

namespace DocumentFields

/-- The fields that the members of a JSON object give; no other value gives fields. -/
def ofJson? : Json → Option DocumentFields
  | .object members => some (members.map fun member => (member.1, FieldValue.ofJson member.2))
  | _ => none

/-- The fields as they are submitted. -/
def submitted (fields : DocumentFields) : DocumentFields :=
  fields.map fun field => (field.1, field.2.submitted)

def toJson (fields : DocumentFields) : Json :=
  .object (fields.map fun field => (field.1, field.2.toJson))

end DocumentFields

end SearchDomain
