/-
  SearchDomain.Transport.Basic

  Requests, replies, and what carries one to the other. Nothing in the library
  talks to a network: a transport is whatever answers requests.
-/
import SearchDomain.Json.Reader
import SearchDomain.Text.Blank
import SearchDomain.Text.Utf8
import SearchDomain.Transport.Status

namespace SearchDomain

/-- A request to the service. -/
inductive Request where
  | get (url : String)
  | post (url body contentType : String)
deriving DecidableEq, Repr

namespace Request

def url : Request → String
  | get url => url
  | post url _ _ => url

end Request

/-- The class of a failure to get any reply. -/
inductive TransportFault where
  /-- No connection was made. -/
  | connect
  /-- No reply came in time. -/
  | timeout
  /-- The request could not be made or sent. -/
  | request
  /-- The reply could not be read. -/
  | decode
  | other
deriving DecidableEq, Repr

namespace TransportFault

def text : TransportFault → String
  | connect => "connect"
  | timeout => "timeout"
  | request => "request"
  | decode => "decode"
  | other => "other"

end TransportFault

/-- A failure to get any reply. -/
structure TransportFailure where
  fault : TransportFault
  message : String
  /-- What lies behind it, in its own words. -/
  cause : Option String := none
deriving DecidableEq, Repr

namespace TransportFailure

def text (failure : TransportFailure) : String :=
  failure.fault.text ++ ": " ++ failure.message

/-- The failure and what lies behind it. -/
def chain (failure : TransportFailure) : List String :=
  failure.text :: failure.cause.toList

end TransportFailure

/-- A reply of the service. -/
structure Reply where
  status : Nat
  body : Json
deriving Repr

namespace Reply

def isSuccess (reply : Reply) : Bool :=
  Status.isSuccess reply.status

/-- A body as it is kept: nothing for blank text, the value for JSON, else the text itself. -/
def bodyOfText (text : String) : Json :=
  if Text.isBlankText text then .null else (Json.read text).getD (.string text)

/-- A body as it is kept, from its bytes. -/
def bodyOfBytes (bytes : List UInt8) : Json :=
  bodyOfText (Text.Utf8.decode bytes)

end Reply

/-- Something that answers requests and keeps a state of its own while doing so. -/
structure Transport (σ : Type) where
  send : Request → σ → Except TransportFailure Reply × σ

end SearchDomain
