/-
  SearchDomain.Client.Error

  How calls of a client fail.
-/
import SearchDomain.Config.Error
import SearchDomain.Json.Decode
import SearchDomain.Page
import SearchDomain.Transport.Basic

namespace SearchDomain

/-- What was asked of the service. -/
inductive Service where
  | search
  | document
deriving DecidableEq, Repr

/-- What went wrong with a request. -/
inductive ServiceFault where
  /-- No reply came. -/
  | transport (failure : TransportFailure)
  /-- The reply's status reports no success. -/
  | status (code : Nat)
  /-- The reply does not have the form of an answer; why, in words. -/
  | malformed (message : String)
  /-- The reply puts the page beyond what can be counted. -/
  | pageOverflow
deriving DecidableEq, Repr

/-- Why a call failed. -/
inductive ClientError where
  | config (error : ConfigError)
  | service (service : Service) (url : String) (fault : ServiceFault)
deriving DecidableEq, Repr

namespace ClientError

/-- The request in the words of a message. -/
def requestName : Service → String
  | .search => "search request to "
  | .document => "document batch to "

/-- The reply in the words of a message. -/
def replyName : Service → String
  | .search => "malformed search response from "
  | .document => "malformed document response from "

def message : ClientError → String
  | config error => error.message
  | service kind url (.transport failure) =>
    requestName kind ++ url ++ " failed: " ++ failure.text
  | service kind url (.status code) =>
    requestName kind ++ url ++ " returned " ++ toString code ++ " " ++ Status.phrase code
  | service kind url (.malformed message) => replyName kind ++ url ++ ": " ++ message
  | service _ _ .pageOverflow => PageError.pageOverflow.message

/-- The status of a reply that reports no success. -/
def status? : ClientError → Option Nat
  | service _ _ (.status code) => some code
  | _ => none

def lacksSetting : ClientError → Bool
  | config (.missing _) => true
  | _ => false

/-- What lies behind the error, from the nearest on. -/
def sources : ClientError → List String
  | service _ _ (.transport failure) => failure.chain
  | _ => []

end ClientError

end SearchDomain
