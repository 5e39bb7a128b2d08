/-
  SearchDomain.Document.Answer

  The service's answer to a batch.
-/
import SearchDomain.Json.Decode
import SearchDomain.Json.Writer

namespace SearchDomain

/-- What the service says about a batch. -/
structure BatchAnswer where
  /-- `success`, or anything else when something went wrong. -/
  status : String := ""
  /-- How many documents were added. -/
  adds : Nat := 0
  /-- How many documents were deleted. -/
  deletes : Nat := 0
  errors : List String := []
  warnings : List String := []
deriving DecidableEq, Repr

namespace BatchAnswer

def isSuccess (answer : BatchAnswer) : Bool :=
  answer.status = "success"

/-! ## JSON -/

def messageToJson (message : String) : Json :=
  .object [("message", .string message)]

def toJson (answer : BatchAnswer) : Json :=
  .object [("status", .string answer.status), ("adds", .whole answer.adds),
    ("deletes", .whole answer.deletes), ("errors", .array (answer.errors.map messageToJson)),
    ("warnings", .array (answer.warnings.map messageToJson))]

/-- A message is a record with one member, which may be missing. -/
def decodeMessage : Json.Decoder String
  | .array items => do
    let message ← Json.itemOr items 0 Json.decodeString (.ok "")
    Json.checkLength 1 items
    return message
  | .object members => Json.memberOr members "message" Json.decodeString (.ok "")
  | other => Json.mismatch "struct BatchMessage" other

/-- Every member may be missing. -/
def decode : Json.Decoder BatchAnswer
  | .array items => do
    let status ← Json.itemOr items 0 Json.decodeString (.ok "")
    let adds ← Json.itemOr items 1 Json.decodeNat64 (.ok 0)
    let deletes ← Json.itemOr items 2 Json.decodeNat64 (.ok 0)
    let errors ← Json.itemOr items 3 (Json.decodeList decodeMessage) (.ok [])
    let warnings ← Json.itemOr items 4 (Json.decodeList decodeMessage) (.ok [])
    Json.checkLength 5 items
    return ⟨status, adds, deletes, errors, warnings⟩
  | .object members => do
    Json.checkMembers (fun name json =>
      if name = "status" then Json.checkWith Json.decodeString json
      else if name = "adds" ∨ name = "deletes" then Json.checkWith Json.decodeNat64 json
      else if name = "errors" ∨ name = "warnings" then
        Json.checkWith (Json.decodeList decodeMessage) json
      else .ok ()) members
    let status ← Json.memberOr members "status" Json.decodeString (.ok "")
    let adds ← Json.memberOr members "adds" Json.decodeNat64 (.ok 0)
    let deletes ← Json.memberOr members "deletes" Json.decodeNat64 (.ok 0)
    let errors ← Json.memberOr members "errors" (Json.decodeList decodeMessage) (.ok [])
    let warnings ← Json.memberOr members "warnings" (Json.decodeList decodeMessage) (.ok [])
    return ⟨status, adds, deletes, errors, warnings⟩
  | other => Json.mismatch "struct BatchResponse" other

end BatchAnswer

end SearchDomain
