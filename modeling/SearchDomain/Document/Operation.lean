/-
  SearchDomain.Document.Operation

  Operations on documents, and the batches in which they are submitted.
-/
import SearchDomain.ApiVersion
import SearchDomain.Document.Field

namespace SearchDomain

/-- An operation on the document with an id. -/
inductive DocumentOperation where
  /-- Adds the document, or replaces it. -/
  | add (id : String) (version : Option Int64) (language : Option String)
      (fields : DocumentFields)
  /-- Deletes the document. -/
  | delete (id : String) (version : Option Int64)
deriving Repr

namespace DocumentOperation

def id : DocumentOperation → String
  | add id _ _ _ => id
  | delete id _ => id

/-- Adds a document at a time in Unix seconds. -/
def adding (id : String) (fields : DocumentFields) (api : ApiVersion) (now : Int64) :
    DocumentOperation :=
  add id (api.operationVersion now) api.documentLanguage fields.submitted

/-- Deletes a document at a time in Unix seconds. -/
def deleting (id : String) (api : ApiVersion) (now : Int64) : DocumentOperation :=
  delete id (api.operationVersion now)

/-- A member that is left out when it has no value. -/
def optionalMember (name : String) (value : Option Json) : List (String × Json) :=
  (value.map fun json => (name, json)).toList

def toJson : DocumentOperation → Json
  | add id version language fields =>
    .object <|
      [("type", .string "add"), ("id", .string id)] ++
      optionalMember "version" (version.map fun n => .whole n.toInt) ++
      optionalMember "lang" (language.map .string) ++
      [("fields", fields.toJson)]
  | delete id version =>
    .object <|
      [("type", .string "delete"), ("id", .string id)] ++
      optionalMember "version" (version.map fun n => .whole n.toInt)

end DocumentOperation

/-- Operations that are submitted together. -/
structure DocumentBatch where
  operations : List DocumentOperation
deriving Repr

namespace DocumentBatch

/-- What a batch is submitted as. -/
def contentType : String := "application/json"

def single (operation : DocumentOperation) : DocumentBatch :=
  ⟨[operation]⟩

def toJson (batch : DocumentBatch) : Json :=
  .array (batch.operations.map DocumentOperation.toJson)

/-- The body that is submitted. -/
def body (batch : DocumentBatch) : String :=
  batch.toJson.compact

end DocumentBatch

end SearchDomain
