/-
  SearchDomain.Transport.Queue

  Transports without a network: one that answers from a prepared list, and one
  that reaches nobody.
-/
import SearchDomain.Transport.Basic
import SearchDomain.Web.Address

namespace SearchDomain.Transport

/-- Answers requests from a list, and with an empty success once the list is used up. -/
def queue : Transport (List (Except TransportFailure Reply)) where
  send _ prepared :=
    match prepared with
    | [] => (.ok ⟨200, .object []⟩, [])
    | reply :: rest => (reply, rest)

/-- Reaches nobody: what is no URL cannot be requested, and no connection is ever made. -/
def offline : Transport Unit where
  send request _ :=
    if Web.isAbsoluteUrl request.url then
      (.error ⟨.connect, "error sending request for url (" ++ request.url ++ ")",
        some "network is unreachable"⟩, ())
    else (.error ⟨.request, "builder error", some "relative URL without a base"⟩, ())

end SearchDomain.Transport
