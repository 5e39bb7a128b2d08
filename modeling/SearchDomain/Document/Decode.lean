/-
  SearchDomain.Document.Decode

  Batches read back from JSON. An operation is an object whose member `type`
  says which it is, or an array that begins with it.
-/
import SearchDomain.Document.Operation
import SearchDomain.Json.Decode

namespace SearchDomain

namespace FieldValue

mutual

/-- The field value that a JSON value stands for in a batch; objects stand for none. -/
def decode : Json → Except DecodeError FieldValue
  | .null => .ok null
  | .bool b => .ok (bool b)
  | .number n =>
    match n.toInt64? with
    | some i => .ok (integer i)
    | none => .ok (real n.toBinary64)
  | .string s => .ok (text s)
  | .array items => (decodeAll items).map list
  | .object _ => .error (.noAlternative "FieldValue")

/-- The field values for items in order, up to the first that has none. -/
def decodeAll : List Json → Except DecodeError (List FieldValue)
  | [] => .ok []
  | item :: rest =>
    match decode item with
    | .error e => .error e
    | .ok value => (decodeAll rest).map (value :: ·)

end

end FieldValue

namespace DocumentFields

/-- The fields for members in order, up to the first that has none. -/
def decodeMembers : List (String × Json) → Except DecodeError DocumentFields
  | [] => .ok []
  | (name, json) :: rest =>
    match FieldValue.decode json with
    | .error e => .error e
    | .ok value => (decodeMembers rest).map ((name, value) :: ·)

def decode : Json.Decoder DocumentFields
  | .object members => decodeMembers members
  | other => Json.mismatch "a map" other

end DocumentFields

namespace DocumentOperation

/-- Which operation it is. -/
inductive Kind where
  | add
  | delete
deriving DecidableEq, Repr

def decodeKind : Json.Decoder Kind
  | .string "add" => .ok .add
  | .string "delete" => .ok .delete
  | .string name => .error (.unknownName name "add" "delete")
  | other => Json.mismatch "variant identifier" other

def decodeVersion : Json.Decoder (Option Int64) :=
  Json.decodeOption Json.decodeInt64

def decodeLanguage : Json.Decoder (Option String) :=
  Json.decodeOption Json.decodeString

/-- The operation with these members. -/
def decodeMembers (members : Entries Json) : Kind → Except DecodeError DocumentOperation
  | .add => do
    Json.checkMembers (fun name json =>
      if name = "id" then Json.checkWith Json.decodeString json
      else if name = "version" then Json.checkWith decodeVersion json
      else if name = "lang" then Json.checkWith decodeLanguage json
      else if name = "fields" then Json.checkWith DocumentFields.decode json
      else .ok ()) members
    let id ← Json.memberOr members "id" Json.decodeString (.error (.missingMember "id"))
    let version ← Json.memberOr members "version" decodeVersion (.ok none)
    let language ← Json.memberOr members "lang" decodeLanguage (.ok none)
    let fields ← Json.memberOr members "fields" DocumentFields.decode
      (.error (.missingMember "fields"))
    return add id version language fields
  | .delete => do
    Json.checkMembers (fun name json =>
      if name = "id" then Json.checkWith Json.decodeString json
      else if name = "version" then Json.checkWith decodeVersion json
      else .ok ()) members
    let id ← Json.memberOr members "id" Json.decodeString (.error (.missingMember "id"))
    let version ← Json.memberOr members "version" decodeVersion (.ok none)
    return delete id version

/-- Refuses items behind the last member of an operation. -/
def checkPlaces (count : Nat) (items : List Json) : Except DecodeError Unit :=
  if count < items.length then
    .error (.wrongLength items.length (toString count ++ " elements in sequence"))
  else .ok ()

/-- The operation with its members by place. -/
def decodeItems (items : List Json) : Kind → Except DecodeError DocumentOperation
  | .add => do
    let expected := "struct variant DocumentOperation::Add with 4 elements"
    let id ← Json.itemOr items 0 Json.decodeString (.error (.wrongLength 0 expected))
    let version ← Json.itemOr items 1 decodeVersion (.ok none)
    let language ← Json.itemOr items 2 decodeLanguage (.ok none)
    let fields ← Json.itemOr items 3 DocumentFields.decode (.error (.wrongLength 3 expected))
    checkPlaces 4 items
    return add id version language fields
  | .delete => do
    let expected := "struct variant DocumentOperation::Delete with 2 elements"
    let id ← Json.itemOr items 0 Json.decodeString (.error (.wrongLength 0 expected))
    let version ← Json.itemOr items 1 decodeVersion (.ok none)
    checkPlaces 2 items
    return delete id version

def decode : Json.Decoder DocumentOperation
  | .object members =>
    match Entries.find? members "type" with
    | none => .error (.missingMember "type")
    | some kind => do decodeMembers members (← decodeKind kind)
  | .array [] => .error (.missingMember "type")
  | .array (kind :: items) => do decodeItems items (← decodeKind kind)
  | other => Json.mismatch "internally tagged enum DocumentOperation" other

end DocumentOperation

namespace DocumentBatch

def decode : Json.Decoder DocumentBatch := fun json =>
  (Json.decodeList DocumentOperation.decode json).map DocumentBatch.mk

end DocumentBatch

end SearchDomain
