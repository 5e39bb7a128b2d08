/-
  SearchDomain.Rank

  The order of hits: a field and a direction, as callers write it, as the two
  versions send it, and in JSON.
-/
import SearchDomain.ApiVersion
import SearchDomain.Json.Decode

namespace SearchDomain

/-- Which way hits are ordered. -/
inductive Direction where
  | ascending
  | descending
deriving DecidableEq, Repr

namespace Direction

def keyword : Direction → String
  | ascending => "asc"
  | descending => "desc"

end Direction

/-- A field to order hits by, and the direction. -/
structure Rank where
  field : String
  direction : Direction
deriving DecidableEq, Repr

namespace Rank

/-- A field name, descending behind a minus sign. White space around the whole does not count. -/
def ofText (s : String) : Rank :=
  match (Text.trim s).toList with
  | '-' :: field => ⟨String.ofList field, .descending⟩
  | field => ⟨String.ofList field, .ascending⟩

/-- The rank as the value of a version's rank parameter. -/
def fragment (rank : Rank) : ApiVersion → String
  | .legacy =>
    match rank.direction with
    | .ascending => rank.field
    | .descending => "-" ++ rank.field
  | .structured => rank.field ++ " " ++ rank.direction.keyword

/-! ## JSON -/

def toJson (rank : Rank) : Json :=
  .object [("field", .string rank.field), ("direction", .string rank.direction.keyword)]

def decodeDirection : Json.Decoder Direction :=
  Json.decodeName (Direction.ascending.keyword, .ascending)
    (Direction.descending.keyword, .descending)

/-- The direction may be left out. -/
def decode : Json.Decoder Rank
  | .array items => do
    let field ← Json.itemOr items 0 Json.decodeString
      (.error (.wrongLength 0 "struct Rank with 2 elements"))
    let direction ← Json.itemOr items 1 decodeDirection (.ok .ascending)
    Json.checkLength 2 items
    return ⟨field, direction⟩
  | .object members => do
    Json.checkMembers (fun name json =>
      if name = "field" then Json.checkWith Json.decodeString json
      else if name = "direction" then Json.checkWith decodeDirection json
      else .ok ()) members
    let field ← Json.memberOr members "field" Json.decodeString (.error (.missingMember "field"))
    let direction ← Json.memberOr members "direction" decodeDirection (.ok .ascending)
    return ⟨field, direction⟩
  | other => Json.mismatch "struct Rank" other

end Rank

end SearchDomain
