/-
  SearchDomain.Log

  What the library tells about its work while it works.
-/
namespace SearchDomain

/-- How much an entry matters. -/
inductive LogLevel where
  | debug
  | info
  | warn
deriving DecidableEq, Repr

namespace LogLevel

def text : LogLevel → String
  | debug => "DEBUG"
  | info => "INFO"
  | warn => "WARN"

end LogLevel

/-- A detail of an entry. -/
inductive LogDetail where
  | text (s : String)
  | number (n : Nat)
deriving DecidableEq, Repr

/-- An entry of the log, with named details in order. -/
structure LogEntry where
  level : LogLevel
  message : String
  details : List (String × LogDetail) := []
deriving DecidableEq, Repr

end SearchDomain
