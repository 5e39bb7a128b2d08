/-
  SearchDomain.Json.Reader

  JSON values from their tokens. The reader goes through the tokens once and
  keeps the containers that are still open on a stack, so it needs no other
  bound than the text itself. More than 127 open containers are refused.
-/
import SearchDomain.Json.Token

namespace SearchDomain.Json

/-- A container that is still open while a value inside it is read. -/
inductive Frame where
  /-- An array and its items so far, the last one first. -/
  | array (done : List Json)
  /-- An object, its members so far, and the name whose value is being read. -/
  | object (done : Entries Json) (name : String)

/-- What may come next. -/
inductive Stage where
  /-- A value. -/
  | value
  /-- The first item of an array, or its end. -/
  | firstItem
  /-- The first name of an object, or its end. -/
  | firstName
  /-- A further name of an object with these members. -/
  | nextName (done : Entries Json)
  /-- The colon behind a name. -/
  | colon (done : Entries Json) (name : String)
  /-- Whatever may follow a finished value. -/
  | finished (value : Json)

/-- Where the reader stands. -/
structure Reader where
  stage : Stage
  stack : List Frame

namespace Reader

def start : Reader := ⟨.value, []⟩

/-- How many containers may be open at once. -/
def maxDepth : Nat := 127

/-- A token where a value is expected. -/
def beginValue (stack : List Frame) : Token → Option Reader
  | .null => some ⟨.finished .null, stack⟩
  | .bool b => some ⟨.finished (.bool b), stack⟩
  | .number n => some ⟨.finished (.number n), stack⟩
  | .string s => some ⟨.finished (.string s), stack⟩
  | .openArray =>
    if stack.length < maxDepth then some ⟨.firstItem, .array [] :: stack⟩ else none
  | .openObject => if stack.length < maxDepth then some ⟨.firstName, stack⟩ else none
  | _ => none

/-- A token behind a finished value. -/
def afterValue (value : Json) : List Frame → Token → Option Reader
  | .array done :: stack, .comma => some ⟨.value, .array (value :: done) :: stack⟩
  | .array done :: stack, .closeArray =>
    some ⟨.finished (.array (value :: done).reverse), stack⟩
  | .object done name :: stack, .comma => some ⟨.nextName (done.insert name value), stack⟩
  | .object done name :: stack, .closeObject =>
    some ⟨.finished (.object (done.insert name value)), stack⟩
  | _, _ => none

/-- One token further. -/
def step (reader : Reader) (token : Token) : Option Reader :=
  match reader.stage, token with
  | .value, token => beginValue reader.stack token
  | .firstItem, .closeArray =>
    match reader.stack with
    | .array done :: stack => some ⟨.finished (.array done.reverse), stack⟩
    | _ => none
  | .firstItem, token => beginValue reader.stack token
  | .firstName, .string name => some ⟨.colon [] name, reader.stack⟩
  | .firstName, .closeObject => some ⟨.finished (.object []), reader.stack⟩
  | .nextName done, .string name => some ⟨.colon done name, reader.stack⟩
  | .colon done name, .colon => some ⟨.value, .object done name :: reader.stack⟩
  | .finished value, token => afterValue value reader.stack token
  | _, _ => none

/-- Through all the tokens. -/
def run (reader : Reader) (tokens : List Token) : Option Reader :=
  tokens.foldlM step reader

/-- The value, once it is finished and nothing is left open. -/
def result? : Reader → Option Json
  | ⟨.finished value, []⟩ => some value
  | _ => none

end Reader

/-- The value that a text spells, if it is JSON. -/
def read (s : String) : Option Json := do
  let tokens ← Token.scan s.toList
  let reader ← Reader.start.run tokens
  reader.result?

end SearchDomain.Json
