/-
  SearchDomain.Json.Decode

  Reading JSON values into types: what can be wrong with a value, the words for
  it, and readers for the pieces that records are made of. A record is an object
  with members by name, or an array with members by place; of several faults the
  first in the order of the value is reported, and a missing member after those.
-/
import SearchDomain.Json.Basic
import SearchDomain.Text.Literal

namespace SearchDomain

/-- What stands in place of an expected value. -/
inductive FoundValue where
  | null
  | bool (b : Bool)
  | number (n : JsonNumber)
  | string (s : String)
  | sequence
  | map
deriving DecidableEq, Repr

namespace FoundValue

def ofJson : Json → FoundValue
  | .null => null
  | .bool b => bool b
  | .number n => number n
  | .string s => string s
  | .array _ => sequence
  | .object _ => map

def text : FoundValue → String
  | null => "null"
  | bool b => "boolean `" ++ (if b then "true" else "false") ++ "`"
  | number (.whole n) => "integer `" ++ toString n ++ "`"
  | number (.real x) => "floating point `" ++ x.jsonText ++ "`"
  | string s => "string " ++ Text.shown s
  | sequence => "sequence"
  | map => "map"

end FoundValue

/-- Why a JSON value does not have the expected form. -/
inductive DecodeError where
  /-- A value of another sort than expected. -/
  | wrongType (found : FoundValue) (expected : String)
  /-- A value of the right sort that is out of range. -/
  | wrongValue (found : FoundValue) (expected : String)
  /-- Too many or too few items. -/
  | wrongLength (length : Nat) (expected : String)
  | missingMember (name : String)
  /-- A name that is none of the two that are known. -/
  | unknownName (name first second : String)
  /-- A value that fits no alternative of a type. -/
  | noAlternative (type : String)
deriving DecidableEq, Repr

namespace DecodeError

def message : DecodeError → String
  | wrongType found expected => "invalid type: " ++ found.text ++ ", expected " ++ expected
  | wrongValue found expected => "invalid value: " ++ found.text ++ ", expected " ++ expected
  | wrongLength length expected =>
    "invalid length " ++ toString length ++ ", expected " ++ expected
  | missingMember name => "missing field `" ++ name ++ "`"
  | unknownName name first second =>
    "unknown variant `" ++ name ++ "`, expected `" ++ first ++ "` or `" ++ second ++ "`"
  | noAlternative type => "data did not match any variant of untagged enum " ++ type

end DecodeError

namespace Json

/-- A reader of values. -/
abbrev Decoder (α : Type) := Json → Except DecodeError α

/-- The fault of a value of the wrong sort. -/
def mismatch {α : Type} (expected : String) (json : Json) : Except DecodeError α :=
  .error (.wrongType (FoundValue.ofJson json) expected)

/-! ## Pieces -/

def decodeString : Decoder String
  | .string s => .ok s
  | other => mismatch "a string" other

/-- A 64-bit unsigned integer. -/
def decodeNat64 : Decoder Nat
  | .number (.whole n) =>
    if 0 ≤ n ∧ n < 0x10000000000000000 then .ok n.toNat
    else .error (.wrongValue (.number (.whole n)) "u64")
  | other => mismatch "u64" other

/-- A 64-bit signed integer. -/
def decodeInt64 : Decoder Int64
  | .number (.whole n) =>
    if -0x8000000000000000 ≤ n ∧ n < 0x8000000000000000 then .ok (Int64.ofInt n)
    else .error (.wrongValue (.number (.whole n)) "i64")
  | other => mismatch "i64" other

/-- `null` for no value. -/
def decodeOption {α : Type} (decode : Decoder α) : Decoder (Option α)
  | .null => .ok none
  | json => (decode json).map some

/-- An array of values that are read alike. -/
def decodeList {α : Type} (decode : Decoder α) : Decoder (List α)
  | .array items => items.mapM decode
  | other => mismatch "a sequence" other

/-- One of two names, as a string, or as the only member of an object with the value `null`. -/
def decodeName {α : Type} (first second : String × α) : Decoder α :=
  let known (name : String) : Except DecodeError α :=
    if name = first.1 then .ok first.2
    else if name = second.1 then .ok second.2
    else .error (.unknownName name first.1 second.1)
  fun
  | .string name => known name
  | .object [(name, value)] => do
    let found ← known name
    match value with
    | .null => .ok found
    | other => mismatch "unit" other
  | .object _ => .error (.wrongValue .map "map with a single key")
  | other => mismatch "string or map" other

/-! ## Records -/

/-- The member under a name, read if it is there. -/
def memberOr {α : Type} (members : Entries Json) (name : String) (decode : Decoder α)
    (missing : Except DecodeError α) : Except DecodeError α :=
  match members.find? name with
  | some json => decode json
  | none => missing

/-- The item at a place, read if it is there. -/
def itemOr {α : Type} (items : List Json) (index : Nat) (decode : Decoder α)
    (missing : Except DecodeError α) : Except DecodeError α :=
  match items[index]? with
  | some json => decode json
  | none => missing

/-- Reads members in the order in which they stand, for their faults alone. -/
def checkMembers (check : String → Json → Except DecodeError Unit) :
    List (String × Json) → Except DecodeError Unit
  | [] => .ok ()
  | (name, json) :: rest => do
    check name json
    checkMembers check rest

/-- Whether a value can be read, for its fault alone. -/
def checkWith {α : Type} (decode : Decoder α) (json : Json) : Except DecodeError Unit :=
  (decode json).map fun _ => ()

/-- Refuses an array with more items than a record has members. -/
def checkLength (count : Nat) (items : List Json) : Except DecodeError Unit :=
  if count < items.length then
    .error (.wrongLength items.length "fewer elements in array")
  else .ok ()

end Json

end SearchDomain
