import CloudApi.Error
import CloudApi.Reply.Raw
import CloudApi.Request.Prepared

/-! # Exchanges

Requests are handed to a transport, which answers each of them or fails.  A link remembers what
has been sent over it, and the transport's answers may depend on that. -/

namespace CloudApi

/-- What answers requests, given all requests before. -/
abbrev Transport : Type := List Prepared → Prepared → Except TransportError RawReply

/-- A transport and the requests that have been sent over it, in order. -/
structure Link where
  transport : Transport
  sent : List Prepared := []

namespace Link

/-- Send a request. -/
def send (l : Link) (request : Prepared) : Except TransportError RawReply × Link :=
  (l.transport l.sent request, { l with sent := l.sent ++ [request] })

/-- Send a request in a protocol, and decode the answer to its command. -/
def exchange (l : Link) (decode : RawReply → Except Refusal (Option Json)) (request : Prepared) :
    Except Error (Option Json) × Link :=
  let (answer, l) := l.send request
  match answer with
  | .error e => (.error (.transport e), l)
  | .ok raw => ((decode raw).mapError .refused, l)

end Link

end CloudApi
